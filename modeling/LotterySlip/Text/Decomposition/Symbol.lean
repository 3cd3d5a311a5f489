/-! Canonical decompositions of spaces, letter-like symbols, arrows and operators. -/
namespace LotterySlip.Text.Decomposition

def symbol : List (Nat × List (List Nat)) := [
  (0x2000, [[0x2002], [0x2003]]),
  (0x2126, [[0x3A9]]),
  (0x212A, [[0x4B], [0x41, 0x30A]]),
  (0x219A, [[0x2190, 0x338], [0x2192, 0x338]]),
  (0x21AE, [[0x2194, 0x338]]),
  (0x21CD, [[0x21D0, 0x338], [0x21D4, 0x338], [0x21D2, 0x338]]),
  (0x2204, [[0x2203, 0x338]]),
  (0x2209, [[0x2208, 0x338]]),
  (0x220C, [[0x220B, 0x338]]),
  (0x2224, [[0x2223, 0x338]]),
  (0x2226, [[0x2225, 0x338]]),
  (0x2241, [[0x223C, 0x338]]),
  (0x2244, [[0x2243, 0x338]]),
  (0x2247, [[0x2245, 0x338]]),
  (0x2249, [[0x2248, 0x338]]),
  (0x2260, [[0x3D, 0x338]]),
  (0x2262, [[0x2261, 0x338]]),
  (0x226D, [[0x224D, 0x338], [0x3C, 0x338], [0x3E, 0x338], [0x2264, 0x338], [0x2265, 0x338]]),
  (0x2274, [[0x2272, 0x338], [0x2273, 0x338]]),
  (0x2278, [[0x2276, 0x338], [0x2277, 0x338]]),
  (0x2280, [[0x227A, 0x338], [0x227B, 0x338]]),
  (0x2284, [[0x2282, 0x338], [0x2283, 0x338]]),
  (0x2288, [[0x2286, 0x338], [0x2287, 0x338]]),
  (0x22AC, [[0x22A2, 0x338], [0x22A8, 0x338], [0x22A9, 0x338], [0x22AB, 0x338]]),
  (0x22E0, [[0x227C, 0x338], [0x227D, 0x338], [0x2291, 0x338], [0x2292, 0x338]]),
  (0x22EA, [[0x22B2, 0x338], [0x22B3, 0x338], [0x22B4, 0x338], [0x22B5, 0x338]]),
  (0x2329, [[0x3008], [0x3009]]),
  (0x2ADC, [[0x2ADD, 0x338]])]

end LotterySlip.Text.Decomposition
