/-! Canonical decompositions in the other alphabets of the first plane. -/
namespace LotterySlip.Text.Decomposition

def scripts : List (Nat × List (List Nat)) := [
  (0x0400, [[0x415, 0x300], [0x415, 0x308]]),
  (0x0403, [[0x413, 0x301]]),
  (0x0407, [[0x406, 0x308]]),
  (0x040C, [[0x41A, 0x301], [0x418, 0x300], [0x423, 0x306]]),
  (0x0419, [[0x418, 0x306]]),
  (0x0439, [[0x438, 0x306]]),
  (0x0450, [[0x435, 0x300], [0x435, 0x308]]),
  (0x0453, [[0x433, 0x301]]),
  (0x0457, [[0x456, 0x308]]),
  (0x045C, [[0x43A, 0x301], [0x438, 0x300], [0x443, 0x306]]),
  (0x0476, [[0x474, 0x30F], [0x475, 0x30F]]),
  (0x04C1, [[0x416, 0x306], [0x436, 0x306]]),
  (0x04D0, [[0x410, 0x306], [0x430, 0x306], [0x410, 0x308], [0x430, 0x308]]),
  (0x04D6, [[0x415, 0x306], [0x435, 0x306]]),
  (0x04DA, [
    [0x4D8, 0x308], [0x4D9, 0x308], [0x416, 0x308], [0x436, 0x308], [0x417, 0x308], [0x437, 0x308]]),
  (0x04E2, [
    [0x418, 0x304], [0x438, 0x304], [0x418, 0x308], [0x438, 0x308], [0x41E, 0x308], [0x43E, 0x308]]),
  (0x04EA, [
    [0x4E8, 0x308], [0x4E9, 0x308], [0x42D, 0x308], [0x44D, 0x308], [0x423, 0x304],
    [0x443, 0x304], [0x423, 0x308], [0x443, 0x308], [0x423, 0x30B], [0x443, 0x30B],
    [0x427, 0x308], [0x447, 0x308]]),
  (0x04F8, [[0x42B, 0x308], [0x44B, 0x308]]),
  (0x0622, [[0x627, 0x653], [0x627, 0x654], [0x648, 0x654], [0x627, 0x655], [0x64A, 0x654]]),
  (0x06C0, [[0x6D5, 0x654]]),
  (0x06C2, [[0x6C1, 0x654]]),
  (0x06D3, [[0x6D2, 0x654]]),
  (0x0929, [[0x928, 0x93C]]),
  (0x0931, [[0x930, 0x93C]]),
  (0x0934, [[0x933, 0x93C]]),
  (0x0958, [
    [0x915, 0x93C], [0x916, 0x93C], [0x917, 0x93C], [0x91C, 0x93C], [0x921, 0x93C],
    [0x922, 0x93C], [0x92B, 0x93C], [0x92F, 0x93C]]),
  (0x09CB, [[0x9C7, 0x9BE], [0x9C7, 0x9D7]]),
  (0x09DC, [[0x9A1, 0x9BC], [0x9A2, 0x9BC]]),
  (0x09DF, [[0x9AF, 0x9BC]]),
  (0x0A33, [[0xA32, 0xA3C]]),
  (0x0A36, [[0xA38, 0xA3C]]),
  (0x0A59, [[0xA16, 0xA3C], [0xA17, 0xA3C], [0xA1C, 0xA3C]]),
  (0x0A5E, [[0xA2B, 0xA3C]]),
  (0x0B48, [[0xB47, 0xB56]]),
  (0x0B4B, [[0xB47, 0xB3E], [0xB47, 0xB57]]),
  (0x0B5C, [[0xB21, 0xB3C], [0xB22, 0xB3C]]),
  (0x0B94, [[0xB92, 0xBD7]]),
  (0x0BCA, [[0xBC6, 0xBBE], [0xBC7, 0xBBE], [0xBC6, 0xBD7]]),
  (0x0C48, [[0xC46, 0xC56]]),
  (0x0CC0, [[0xCBF, 0xCD5]]),
  (0x0CC7, [[0xCC6, 0xCD5], [0xCC6, 0xCD6]]),
  (0x0CCA, [[0xCC6, 0xCC2], [0xCC6, 0xCC2, 0xCD5]]),
  (0x0D4A, [[0xD46, 0xD3E], [0xD47, 0xD3E], [0xD46, 0xD57]]),
  (0x0DDA, [[0xDD9, 0xDCA]]),
  (0x0DDC, [[0xDD9, 0xDCF], [0xDD9, 0xDCF, 0xDCA], [0xDD9, 0xDDF]]),
  (0x0F43, [[0xF42, 0xFB7]]),
  (0x0F4D, [[0xF4C, 0xFB7]]),
  (0x0F52, [[0xF51, 0xFB7]]),
  (0x0F57, [[0xF56, 0xFB7]]),
  (0x0F5C, [[0xF5B, 0xFB7]]),
  (0x0F69, [[0xF40, 0xFB5]]),
  (0x0F73, [[0xF71, 0xF72]]),
  (0x0F75, [[0xF71, 0xF74], [0xFB2, 0xF80]]),
  (0x0F78, [[0xFB3, 0xF80]]),
  (0x0F81, [[0xF71, 0xF80]]),
  (0x0F93, [[0xF92, 0xFB7]]),
  (0x0F9D, [[0xF9C, 0xFB7]]),
  (0x0FA2, [[0xFA1, 0xFB7]]),
  (0x0FA7, [[0xFA6, 0xFB7]]),
  (0x0FAC, [[0xFAB, 0xFB7]]),
  (0x0FB9, [[0xF90, 0xFB5]]),
  (0x1026, [[0x1025, 0x102E]]),
  (0x1B06, [[0x1B05, 0x1B35]]),
  (0x1B08, [[0x1B07, 0x1B35]]),
  (0x1B0A, [[0x1B09, 0x1B35]]),
  (0x1B0C, [[0x1B0B, 0x1B35]]),
  (0x1B0E, [[0x1B0D, 0x1B35]]),
  (0x1B12, [[0x1B11, 0x1B35]]),
  (0x1B3B, [[0x1B3A, 0x1B35]]),
  (0x1B3D, [[0x1B3C, 0x1B35]]),
  (0x1B40, [[0x1B3E, 0x1B35], [0x1B3F, 0x1B35]]),
  (0x1B43, [[0x1B42, 0x1B35]]),
  (0x304C, [[0x304B, 0x3099]]),
  (0x304E, [[0x304D, 0x3099]]),
  (0x3050, [[0x304F, 0x3099]]),
  (0x3052, [[0x3051, 0x3099]]),
  (0x3054, [[0x3053, 0x3099]]),
  (0x3056, [[0x3055, 0x3099]]),
  (0x3058, [[0x3057, 0x3099]]),
  (0x305A, [[0x3059, 0x3099]]),
  (0x305C, [[0x305B, 0x3099]]),
  (0x305E, [[0x305D, 0x3099]]),
  (0x3060, [[0x305F, 0x3099]]),
  (0x3062, [[0x3061, 0x3099]]),
  (0x3065, [[0x3064, 0x3099]]),
  (0x3067, [[0x3066, 0x3099]]),
  (0x3069, [[0x3068, 0x3099]]),
  (0x3070, [[0x306F, 0x3099], [0x306F, 0x309A]]),
  (0x3073, [[0x3072, 0x3099], [0x3072, 0x309A]]),
  (0x3076, [[0x3075, 0x3099], [0x3075, 0x309A]]),
  (0x3079, [[0x3078, 0x3099], [0x3078, 0x309A]]),
  (0x307C, [[0x307B, 0x3099], [0x307B, 0x309A]]),
  (0x3094, [[0x3046, 0x3099]]),
  (0x309E, [[0x309D, 0x3099]]),
  (0x30AC, [[0x30AB, 0x3099]]),
  (0x30AE, [[0x30AD, 0x3099]]),
  (0x30B0, [[0x30AF, 0x3099]]),
  (0x30B2, [[0x30B1, 0x3099]]),
  (0x30B4, [[0x30B3, 0x3099]]),
  (0x30B6, [[0x30B5, 0x3099]]),
  (0x30B8, [[0x30B7, 0x3099]]),
  (0x30BA, [[0x30B9, 0x3099]]),
  (0x30BC, [[0x30BB, 0x3099]]),
  (0x30BE, [[0x30BD, 0x3099]]),
  (0x30C0, [[0x30BF, 0x3099]]),
  (0x30C2, [[0x30C1, 0x3099]]),
  (0x30C5, [[0x30C4, 0x3099]]),
  (0x30C7, [[0x30C6, 0x3099]]),
  (0x30C9, [[0x30C8, 0x3099]]),
  (0x30D0, [[0x30CF, 0x3099], [0x30CF, 0x309A]]),
  (0x30D3, [[0x30D2, 0x3099], [0x30D2, 0x309A]]),
  (0x30D6, [[0x30D5, 0x3099], [0x30D5, 0x309A]]),
  (0x30D9, [[0x30D8, 0x3099], [0x30D8, 0x309A]]),
  (0x30DC, [[0x30DB, 0x3099], [0x30DB, 0x309A]]),
  (0x30F4, [[0x30A6, 0x3099]]),
  (0x30F7, [[0x30EF, 0x3099], [0x30F0, 0x3099], [0x30F1, 0x3099], [0x30F2, 0x3099]]),
  (0x30FE, [[0x30FD, 0x3099]]),
  (0xFB1D, [[0x5D9, 0x5B4]]),
  (0xFB1F, [[0x5F2, 0x5B7]]),
  (0xFB2A, [
    [0x5E9, 0x5C1], [0x5E9, 0x5C2], [0x5E9, 0x5BC, 0x5C1], [0x5E9, 0x5BC, 0x5C2], [0x5D0, 0x5B7],
    [0x5D0, 0x5B8], [0x5D0, 0x5BC], [0x5D1, 0x5BC], [0x5D2, 0x5BC], [0x5D3, 0x5BC],
    [0x5D4, 0x5BC], [0x5D5, 0x5BC], [0x5D6, 0x5BC]]),
  (0xFB38, [[0x5D8, 0x5BC], [0x5D9, 0x5BC], [0x5DA, 0x5BC], [0x5DB, 0x5BC], [0x5DC, 0x5BC]]),
  (0xFB3E, [[0x5DE, 0x5BC]]),
  (0xFB40, [[0x5E0, 0x5BC], [0x5E1, 0x5BC]]),
  (0xFB43, [[0x5E3, 0x5BC], [0x5E4, 0x5BC]]),
  (0xFB46, [
    [0x5E6, 0x5BC], [0x5E7, 0x5BC], [0x5E8, 0x5BC], [0x5E9, 0x5BC], [0x5EA, 0x5BC],
    [0x5D5, 0x5B9], [0x5D1, 0x5BF], [0x5DB, 0x5BF], [0x5E4, 0x5BF]])]

end LotterySlip.Text.Decomposition
