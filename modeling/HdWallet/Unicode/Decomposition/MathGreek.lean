/-
Full compatibility decompositions, U+1D6A8 to U+1D7FF:
mathematical alphabets, Greek letters and digits.
-/

namespace HdWallet.Unicode.Decomposition

set_option maxRecDepth 20000

/-- Each code point with those it decomposes to, followed to the end and in canonical order. -/
def mathGreek : List (Nat × List Nat) := [
  (0x1D6A8, [0x0391]), (0x1D6A9, [0x0392]), (0x1D6AA, [0x0393]), (0x1D6AB, [0x0394]),
  (0x1D6AC, [0x0395]), (0x1D6AD, [0x0396]), (0x1D6AE, [0x0397]), (0x1D6AF, [0x0398]),
  (0x1D6B0, [0x0399]), (0x1D6B1, [0x039A]), (0x1D6B2, [0x039B]), (0x1D6B3, [0x039C]),
  (0x1D6B4, [0x039D]), (0x1D6B5, [0x039E]), (0x1D6B6, [0x039F]), (0x1D6B7, [0x03A0]),
  (0x1D6B8, [0x03A1]), (0x1D6B9, [0x0398]), (0x1D6BA, [0x03A3]), (0x1D6BB, [0x03A4]),
  (0x1D6BC, [0x03A5]), (0x1D6BD, [0x03A6]), (0x1D6BE, [0x03A7]), (0x1D6BF, [0x03A8]),
  (0x1D6C0, [0x03A9]), (0x1D6C1, [0x2207]), (0x1D6C2, [0x03B1]), (0x1D6C3, [0x03B2]),
  (0x1D6C4, [0x03B3]), (0x1D6C5, [0x03B4]), (0x1D6C6, [0x03B5]), (0x1D6C7, [0x03B6]),
  (0x1D6C8, [0x03B7]), (0x1D6C9, [0x03B8]), (0x1D6CA, [0x03B9]), (0x1D6CB, [0x03BA]),
  (0x1D6CC, [0x03BB]), (0x1D6CD, [0x03BC]), (0x1D6CE, [0x03BD]), (0x1D6CF, [0x03BE]),
  (0x1D6D0, [0x03BF]), (0x1D6D1, [0x03C0]), (0x1D6D2, [0x03C1]), (0x1D6D3, [0x03C2]),
  (0x1D6D4, [0x03C3]), (0x1D6D5, [0x03C4]), (0x1D6D6, [0x03C5]), (0x1D6D7, [0x03C6]),
  (0x1D6D8, [0x03C7]), (0x1D6D9, [0x03C8]), (0x1D6DA, [0x03C9]), (0x1D6DB, [0x2202]),
  (0x1D6DC, [0x03B5]), (0x1D6DD, [0x03B8]), (0x1D6DE, [0x03BA]), (0x1D6DF, [0x03C6]),
  (0x1D6E0, [0x03C1]), (0x1D6E1, [0x03C0]), (0x1D6E2, [0x0391]), (0x1D6E3, [0x0392]),
  (0x1D6E4, [0x0393]), (0x1D6E5, [0x0394]), (0x1D6E6, [0x0395]), (0x1D6E7, [0x0396]),
  (0x1D6E8, [0x0397]), (0x1D6E9, [0x0398]), (0x1D6EA, [0x0399]), (0x1D6EB, [0x039A]),
  (0x1D6EC, [0x039B]), (0x1D6ED, [0x039C]), (0x1D6EE, [0x039D]), (0x1D6EF, [0x039E]),
  (0x1D6F0, [0x039F]), (0x1D6F1, [0x03A0]), (0x1D6F2, [0x03A1]), (0x1D6F3, [0x0398]),
  (0x1D6F4, [0x03A3]), (0x1D6F5, [0x03A4]), (0x1D6F6, [0x03A5]), (0x1D6F7, [0x03A6]),
  (0x1D6F8, [0x03A7]), (0x1D6F9, [0x03A8]), (0x1D6FA, [0x03A9]), (0x1D6FB, [0x2207]),
  (0x1D6FC, [0x03B1]), (0x1D6FD, [0x03B2]), (0x1D6FE, [0x03B3]), (0x1D6FF, [0x03B4]),
  (0x1D700, [0x03B5]), (0x1D701, [0x03B6]), (0x1D702, [0x03B7]), (0x1D703, [0x03B8]),
  (0x1D704, [0x03B9]), (0x1D705, [0x03BA]), (0x1D706, [0x03BB]), (0x1D707, [0x03BC]),
  (0x1D708, [0x03BD]), (0x1D709, [0x03BE]), (0x1D70A, [0x03BF]), (0x1D70B, [0x03C0]),
  (0x1D70C, [0x03C1]), (0x1D70D, [0x03C2]), (0x1D70E, [0x03C3]), (0x1D70F, [0x03C4]),
  (0x1D710, [0x03C5]), (0x1D711, [0x03C6]), (0x1D712, [0x03C7]), (0x1D713, [0x03C8]),
  (0x1D714, [0x03C9]), (0x1D715, [0x2202]), (0x1D716, [0x03B5]), (0x1D717, [0x03B8]),
  (0x1D718, [0x03BA]), (0x1D719, [0x03C6]), (0x1D71A, [0x03C1]), (0x1D71B, [0x03C0]),
  (0x1D71C, [0x0391]), (0x1D71D, [0x0392]), (0x1D71E, [0x0393]), (0x1D71F, [0x0394]),
  (0x1D720, [0x0395]), (0x1D721, [0x0396]), (0x1D722, [0x0397]), (0x1D723, [0x0398]),
  (0x1D724, [0x0399]), (0x1D725, [0x039A]), (0x1D726, [0x039B]), (0x1D727, [0x039C]),
  (0x1D728, [0x039D]), (0x1D729, [0x039E]), (0x1D72A, [0x039F]), (0x1D72B, [0x03A0]),
  (0x1D72C, [0x03A1]), (0x1D72D, [0x0398]), (0x1D72E, [0x03A3]), (0x1D72F, [0x03A4]),
  (0x1D730, [0x03A5]), (0x1D731, [0x03A6]), (0x1D732, [0x03A7]), (0x1D733, [0x03A8]),
  (0x1D734, [0x03A9]), (0x1D735, [0x2207]), (0x1D736, [0x03B1]), (0x1D737, [0x03B2]),
  (0x1D738, [0x03B3]), (0x1D739, [0x03B4]), (0x1D73A, [0x03B5]), (0x1D73B, [0x03B6]),
  (0x1D73C, [0x03B7]), (0x1D73D, [0x03B8]), (0x1D73E, [0x03B9]), (0x1D73F, [0x03BA]),
  (0x1D740, [0x03BB]), (0x1D741, [0x03BC]), (0x1D742, [0x03BD]), (0x1D743, [0x03BE]),
  (0x1D744, [0x03BF]), (0x1D745, [0x03C0]), (0x1D746, [0x03C1]), (0x1D747, [0x03C2]),
  (0x1D748, [0x03C3]), (0x1D749, [0x03C4]), (0x1D74A, [0x03C5]), (0x1D74B, [0x03C6]),
  (0x1D74C, [0x03C7]), (0x1D74D, [0x03C8]), (0x1D74E, [0x03C9]), (0x1D74F, [0x2202]),
  (0x1D750, [0x03B5]), (0x1D751, [0x03B8]), (0x1D752, [0x03BA]), (0x1D753, [0x03C6]),
  (0x1D754, [0x03C1]), (0x1D755, [0x03C0]), (0x1D756, [0x0391]), (0x1D757, [0x0392]),
  (0x1D758, [0x0393]), (0x1D759, [0x0394]), (0x1D75A, [0x0395]), (0x1D75B, [0x0396]),
  (0x1D75C, [0x0397]), (0x1D75D, [0x0398]), (0x1D75E, [0x0399]), (0x1D75F, [0x039A]),
  (0x1D760, [0x039B]), (0x1D761, [0x039C]), (0x1D762, [0x039D]), (0x1D763, [0x039E]),
  (0x1D764, [0x039F]), (0x1D765, [0x03A0]), (0x1D766, [0x03A1]), (0x1D767, [0x0398]),
  (0x1D768, [0x03A3]), (0x1D769, [0x03A4]), (0x1D76A, [0x03A5]), (0x1D76B, [0x03A6]),
  (0x1D76C, [0x03A7]), (0x1D76D, [0x03A8]), (0x1D76E, [0x03A9]), (0x1D76F, [0x2207]),
  (0x1D770, [0x03B1]), (0x1D771, [0x03B2]), (0x1D772, [0x03B3]), (0x1D773, [0x03B4]),
  (0x1D774, [0x03B5]), (0x1D775, [0x03B6]), (0x1D776, [0x03B7]), (0x1D777, [0x03B8]),
  (0x1D778, [0x03B9]), (0x1D779, [0x03BA]), (0x1D77A, [0x03BB]), (0x1D77B, [0x03BC]),
  (0x1D77C, [0x03BD]), (0x1D77D, [0x03BE]), (0x1D77E, [0x03BF]), (0x1D77F, [0x03C0]),
  (0x1D780, [0x03C1]), (0x1D781, [0x03C2]), (0x1D782, [0x03C3]), (0x1D783, [0x03C4]),
  (0x1D784, [0x03C5]), (0x1D785, [0x03C6]), (0x1D786, [0x03C7]), (0x1D787, [0x03C8]),
  (0x1D788, [0x03C9]), (0x1D789, [0x2202]), (0x1D78A, [0x03B5]), (0x1D78B, [0x03B8]),
  (0x1D78C, [0x03BA]), (0x1D78D, [0x03C6]), (0x1D78E, [0x03C1]), (0x1D78F, [0x03C0]),
  (0x1D790, [0x0391]), (0x1D791, [0x0392]), (0x1D792, [0x0393]), (0x1D793, [0x0394]),
  (0x1D794, [0x0395]), (0x1D795, [0x0396]), (0x1D796, [0x0397]), (0x1D797, [0x0398]),
  (0x1D798, [0x0399]), (0x1D799, [0x039A]), (0x1D79A, [0x039B]), (0x1D79B, [0x039C]),
  (0x1D79C, [0x039D]), (0x1D79D, [0x039E]), (0x1D79E, [0x039F]), (0x1D79F, [0x03A0]),
  (0x1D7A0, [0x03A1]), (0x1D7A1, [0x0398]), (0x1D7A2, [0x03A3]), (0x1D7A3, [0x03A4]),
  (0x1D7A4, [0x03A5]), (0x1D7A5, [0x03A6]), (0x1D7A6, [0x03A7]), (0x1D7A7, [0x03A8]),
  (0x1D7A8, [0x03A9]), (0x1D7A9, [0x2207]), (0x1D7AA, [0x03B1]), (0x1D7AB, [0x03B2]),
  (0x1D7AC, [0x03B3]), (0x1D7AD, [0x03B4]), (0x1D7AE, [0x03B5]), (0x1D7AF, [0x03B6]),
  (0x1D7B0, [0x03B7]), (0x1D7B1, [0x03B8]), (0x1D7B2, [0x03B9]), (0x1D7B3, [0x03BA]),
  (0x1D7B4, [0x03BB]), (0x1D7B5, [0x03BC]), (0x1D7B6, [0x03BD]), (0x1D7B7, [0x03BE]),
  (0x1D7B8, [0x03BF]), (0x1D7B9, [0x03C0]), (0x1D7BA, [0x03C1]), (0x1D7BB, [0x03C2]),
  (0x1D7BC, [0x03C3]), (0x1D7BD, [0x03C4]), (0x1D7BE, [0x03C5]), (0x1D7BF, [0x03C6]),
  (0x1D7C0, [0x03C7]), (0x1D7C1, [0x03C8]), (0x1D7C2, [0x03C9]), (0x1D7C3, [0x2202]),
  (0x1D7C4, [0x03B5]), (0x1D7C5, [0x03B8]), (0x1D7C6, [0x03BA]), (0x1D7C7, [0x03C6]),
  (0x1D7C8, [0x03C1]), (0x1D7C9, [0x03C0]), (0x1D7CA, [0x03DC]), (0x1D7CB, [0x03DD]),
  (0x1D7CE, [0x0030]), (0x1D7CF, [0x0031]), (0x1D7D0, [0x0032]), (0x1D7D1, [0x0033]),
  (0x1D7D2, [0x0034]), (0x1D7D3, [0x0035]), (0x1D7D4, [0x0036]), (0x1D7D5, [0x0037]),
  (0x1D7D6, [0x0038]), (0x1D7D7, [0x0039]), (0x1D7D8, [0x0030]), (0x1D7D9, [0x0031]),
  (0x1D7DA, [0x0032]), (0x1D7DB, [0x0033]), (0x1D7DC, [0x0034]), (0x1D7DD, [0x0035]),
  (0x1D7DE, [0x0036]), (0x1D7DF, [0x0037]), (0x1D7E0, [0x0038]), (0x1D7E1, [0x0039]),
  (0x1D7E2, [0x0030]), (0x1D7E3, [0x0031]), (0x1D7E4, [0x0032]), (0x1D7E5, [0x0033]),
  (0x1D7E6, [0x0034]), (0x1D7E7, [0x0035]), (0x1D7E8, [0x0036]), (0x1D7E9, [0x0037]),
  (0x1D7EA, [0x0038]), (0x1D7EB, [0x0039]), (0x1D7EC, [0x0030]), (0x1D7ED, [0x0031]),
  (0x1D7EE, [0x0032]), (0x1D7EF, [0x0033]), (0x1D7F0, [0x0034]), (0x1D7F1, [0x0035]),
  (0x1D7F2, [0x0036]), (0x1D7F3, [0x0037]), (0x1D7F4, [0x0038]), (0x1D7F5, [0x0039]),
  (0x1D7F6, [0x0030]), (0x1D7F7, [0x0031]), (0x1D7F8, [0x0032]), (0x1D7F9, [0x0033]),
  (0x1D7FA, [0x0034]), (0x1D7FB, [0x0035]), (0x1D7FC, [0x0036]), (0x1D7FD, [0x0037]),
  (0x1D7FE, [0x0038]), (0x1D7FF, [0x0039])]

end HdWallet.Unicode.Decomposition
