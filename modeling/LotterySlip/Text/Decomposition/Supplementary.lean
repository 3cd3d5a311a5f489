/-! Canonical decompositions of the alphabets and musical symbols above the first plane. -/
namespace LotterySlip.Text.Decomposition

def supplementary : List (Nat × List (List Nat)) := [
  (0x105C9, [[0x105D2, 0x307]]),
  (0x105E4, [[0x105DA, 0x307]]),
  (0x1109A, [[0x11099, 0x110BA]]),
  (0x1109C, [[0x1109B, 0x110BA]]),
  (0x110AB, [[0x110A5, 0x110BA]]),
  (0x1112E, [[0x11131, 0x11127], [0x11132, 0x11127]]),
  (0x1134B, [[0x11347, 0x1133E], [0x11347, 0x11357]]),
  (0x11383, [[0x11382, 0x113C9]]),
  (0x11385, [[0x11384, 0x113BB]]),
  (0x1138E, [[0x1138B, 0x113C2]]),
  (0x11391, [[0x11390, 0x113C9]]),
  (0x113C5, [[0x113C2, 0x113C2]]),
  (0x113C7, [[0x113C2, 0x113B8], [0x113C2, 0x113C9]]),
  (0x114BB, [[0x114B9, 0x114BA], [0x114B9, 0x114B0]]),
  (0x114BE, [[0x114B9, 0x114BD]]),
  (0x115BA, [[0x115B8, 0x115AF], [0x115B9, 0x115AF]]),
  (0x11938, [[0x11935, 0x11930]]),
  (0x16121, [
    [0x1611E, 0x1611E], [0x1611E, 0x16129], [0x1611E, 0x1611F], [0x16129, 0x1611F],
    [0x1611E, 0x16120], [0x1611E, 0x1611E, 0x1611F], [0x1611E, 0x16129, 0x1611F],
    [0x1611E, 0x1611E, 0x16120]]),
  (0x16D68, [[0x16D67, 0x16D67], [0x16D63, 0x16D67], [0x16D63, 0x16D67, 0x16D67]]),
  (0x1D15E, [
    [0x1D157, 0x1D165], [0x1D158, 0x1D165], [0x1D158, 0x1D165, 0x1D16E],
    [0x1D158, 0x1D165, 0x1D16F], [0x1D158, 0x1D165, 0x1D170], [0x1D158, 0x1D165, 0x1D171],
    [0x1D158, 0x1D165, 0x1D172]]),
  (0x1D1BB, [
    [0x1D1B9, 0x1D165], [0x1D1BA, 0x1D165], [0x1D1B9, 0x1D165, 0x1D16E],
    [0x1D1BA, 0x1D165, 0x1D16E], [0x1D1B9, 0x1D165, 0x1D16F], [0x1D1BA, 0x1D165, 0x1D16F]])]

end LotterySlip.Text.Decomposition
