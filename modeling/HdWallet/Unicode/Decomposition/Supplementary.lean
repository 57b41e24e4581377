/-
Full compatibility decompositions, U+10000 to U+1D3FF and U+1D800 to U+1FFFF:
the letters and symbols of the supplementary multilingual plane.
-/

namespace HdWallet.Unicode.Decomposition

set_option maxRecDepth 20000

/-- Each code point with those it decomposes to, followed to the end and in canonical order. -/
def supplementary : List (Nat × List Nat) := [
  (0x105C9, [0x105D2, 0x0307]), (0x105E4, [0x105DA, 0x0307]), (0x10781, [0x02D0]),
  (0x10782, [0x02D1]), (0x10783, [0x00E6]), (0x10784, [0x0299]), (0x10785, [0x0253]),
  (0x10787, [0x02A3]), (0x10788, [0xAB66]), (0x10789, [0x02A5]), (0x1078A, [0x02A4]),
  (0x1078B, [0x0256]), (0x1078C, [0x0257]), (0x1078D, [0x1D91]), (0x1078E, [0x0258]),
  (0x1078F, [0x025E]), (0x10790, [0x02A9]), (0x10791, [0x0264]), (0x10792, [0x0262]),
  (0x10793, [0x0260]), (0x10794, [0x029B]), (0x10795, [0x0127]), (0x10796, [0x029C]),
  (0x10797, [0x0267]), (0x10798, [0x0284]), (0x10799, [0x02AA]), (0x1079A, [0x02AB]),
  (0x1079B, [0x026C]), (0x1079C, [0x1DF04]), (0x1079D, [0xA78E]), (0x1079E, [0x026E]),
  (0x1079F, [0x1DF05]), (0x107A0, [0x028E]), (0x107A1, [0x1DF06]), (0x107A2, [0x00F8]),
  (0x107A3, [0x0276]), (0x107A4, [0x0277]), (0x107A5, [0x0071]), (0x107A6, [0x027A]),
  (0x107A7, [0x1DF08]), (0x107A8, [0x027D]), (0x107A9, [0x027E]), (0x107AA, [0x0280]),
  (0x107AB, [0x02A8]), (0x107AC, [0x02A6]), (0x107AD, [0xAB67]), (0x107AE, [0x02A7]),
  (0x107AF, [0x0288]), (0x107B0, [0x2C71]), (0x107B2, [0x028F]), (0x107B3, [0x02A1]),
  (0x107B4, [0x02A2]), (0x107B5, [0x0298]), (0x107B6, [0x01C0]), (0x107B7, [0x01C1]),
  (0x107B8, [0x01C2]), (0x107B9, [0x1DF0A]), (0x107BA, [0x1DF1E]), (0x1109A, [0x11099, 0x110BA]),
  (0x1109C, [0x1109B, 0x110BA]), (0x110AB, [0x110A5, 0x110BA]), (0x1112E, [0x11131, 0x11127]),
  (0x1112F, [0x11132, 0x11127]), (0x1134B, [0x11347, 0x1133E]), (0x1134C, [0x11347, 0x11357]),
  (0x11383, [0x11382, 0x113C9]), (0x11385, [0x11384, 0x113BB]), (0x1138E, [0x1138B, 0x113C2]),
  (0x11391, [0x11390, 0x113C9]), (0x113C5, [0x113C2, 0x113C2]), (0x113C7, [0x113C2, 0x113B8]),
  (0x113C8, [0x113C2, 0x113C9]), (0x114BB, [0x114B9, 0x114BA]), (0x114BC, [0x114B9, 0x114B0]),
  (0x114BE, [0x114B9, 0x114BD]), (0x115BA, [0x115B8, 0x115AF]), (0x115BB, [0x115B9, 0x115AF]),
  (0x11938, [0x11935, 0x11930]), (0x16121, [0x1611E, 0x1611E]), (0x16122, [0x1611E, 0x16129]),
  (0x16123, [0x1611E, 0x1611F]), (0x16124, [0x16129, 0x1611F]), (0x16125, [0x1611E, 0x16120]),
  (0x16126, [0x1611E, 0x1611E, 0x1611F]), (0x16127, [0x1611E, 0x16129, 0x1611F]),
  (0x16128, [0x1611E, 0x1611E, 0x16120]), (0x16D68, [0x16D67, 0x16D67]),
  (0x16D69, [0x16D63, 0x16D67]), (0x16D6A, [0x16D63, 0x16D67, 0x16D67]), (0x1CCD6, [0x0041]),
  (0x1CCD7, [0x0042]), (0x1CCD8, [0x0043]), (0x1CCD9, [0x0044]), (0x1CCDA, [0x0045]),
  (0x1CCDB, [0x0046]), (0x1CCDC, [0x0047]), (0x1CCDD, [0x0048]), (0x1CCDE, [0x0049]),
  (0x1CCDF, [0x004A]), (0x1CCE0, [0x004B]), (0x1CCE1, [0x004C]), (0x1CCE2, [0x004D]),
  (0x1CCE3, [0x004E]), (0x1CCE4, [0x004F]), (0x1CCE5, [0x0050]), (0x1CCE6, [0x0051]),
  (0x1CCE7, [0x0052]), (0x1CCE8, [0x0053]), (0x1CCE9, [0x0054]), (0x1CCEA, [0x0055]),
  (0x1CCEB, [0x0056]), (0x1CCEC, [0x0057]), (0x1CCED, [0x0058]), (0x1CCEE, [0x0059]),
  (0x1CCEF, [0x005A]), (0x1CCF0, [0x0030]), (0x1CCF1, [0x0031]), (0x1CCF2, [0x0032]),
  (0x1CCF3, [0x0033]), (0x1CCF4, [0x0034]), (0x1CCF5, [0x0035]), (0x1CCF6, [0x0036]),
  (0x1CCF7, [0x0037]), (0x1CCF8, [0x0038]), (0x1CCF9, [0x0039]), (0x1D15E, [0x1D157, 0x1D165]),
  (0x1D15F, [0x1D158, 0x1D165]), (0x1D160, [0x1D158, 0x1D165, 0x1D16E]),
  (0x1D161, [0x1D158, 0x1D165, 0x1D16F]), (0x1D162, [0x1D158, 0x1D165, 0x1D170]),
  (0x1D163, [0x1D158, 0x1D165, 0x1D171]), (0x1D164, [0x1D158, 0x1D165, 0x1D172]),
  (0x1D1BB, [0x1D1B9, 0x1D165]), (0x1D1BC, [0x1D1BA, 0x1D165]),
  (0x1D1BD, [0x1D1B9, 0x1D165, 0x1D16E]), (0x1D1BE, [0x1D1BA, 0x1D165, 0x1D16E]),
  (0x1D1BF, [0x1D1B9, 0x1D165, 0x1D16F]), (0x1D1C0, [0x1D1BA, 0x1D165, 0x1D16F]),
  (0x1E030, [0x0430]), (0x1E031, [0x0431]), (0x1E032, [0x0432]), (0x1E033, [0x0433]),
  (0x1E034, [0x0434]), (0x1E035, [0x0435]), (0x1E036, [0x0436]), (0x1E037, [0x0437]),
  (0x1E038, [0x0438]), (0x1E039, [0x043A]), (0x1E03A, [0x043B]), (0x1E03B, [0x043C]),
  (0x1E03C, [0x043E]), (0x1E03D, [0x043F]), (0x1E03E, [0x0440]), (0x1E03F, [0x0441]),
  (0x1E040, [0x0442]), (0x1E041, [0x0443]), (0x1E042, [0x0444]), (0x1E043, [0x0445]),
  (0x1E044, [0x0446]), (0x1E045, [0x0447]), (0x1E046, [0x0448]), (0x1E047, [0x044B]),
  (0x1E048, [0x044D]), (0x1E049, [0x044E]), (0x1E04A, [0xA689]), (0x1E04B, [0x04D9]),
  (0x1E04C, [0x0456]), (0x1E04D, [0x0458]), (0x1E04E, [0x04E9]), (0x1E04F, [0x04AF]),
  (0x1E050, [0x04CF]), (0x1E051, [0x0430]), (0x1E052, [0x0431]), (0x1E053, [0x0432]),
  (0x1E054, [0x0433]), (0x1E055, [0x0434]), (0x1E056, [0x0435]), (0x1E057, [0x0436]),
  (0x1E058, [0x0437]), (0x1E059, [0x0438]), (0x1E05A, [0x043A]), (0x1E05B, [0x043B]),
  (0x1E05C, [0x043E]), (0x1E05D, [0x043F]), (0x1E05E, [0x0441]), (0x1E05F, [0x0443]),
  (0x1E060, [0x0444]), (0x1E061, [0x0445]), (0x1E062, [0x0446]), (0x1E063, [0x0447]),
  (0x1E064, [0x0448]), (0x1E065, [0x044A]), (0x1E066, [0x044B]), (0x1E067, [0x0491]),
  (0x1E068, [0x0456]), (0x1E069, [0x0455]), (0x1E06A, [0x045F]), (0x1E06B, [0x04AB]),
  (0x1E06C, [0xA651]), (0x1E06D, [0x04B1]), (0x1EE00, [0x0627]), (0x1EE01, [0x0628]),
  (0x1EE02, [0x062C]), (0x1EE03, [0x062F]), (0x1EE05, [0x0648]), (0x1EE06, [0x0632]),
  (0x1EE07, [0x062D]), (0x1EE08, [0x0637]), (0x1EE09, [0x064A]), (0x1EE0A, [0x0643]),
  (0x1EE0B, [0x0644]), (0x1EE0C, [0x0645]), (0x1EE0D, [0x0646]), (0x1EE0E, [0x0633]),
  (0x1EE0F, [0x0639]), (0x1EE10, [0x0641]), (0x1EE11, [0x0635]), (0x1EE12, [0x0642]),
  (0x1EE13, [0x0631]), (0x1EE14, [0x0634]), (0x1EE15, [0x062A]), (0x1EE16, [0x062B]),
  (0x1EE17, [0x062E]), (0x1EE18, [0x0630]), (0x1EE19, [0x0636]), (0x1EE1A, [0x0638]),
  (0x1EE1B, [0x063A]), (0x1EE1C, [0x066E]), (0x1EE1D, [0x06BA]), (0x1EE1E, [0x06A1]),
  (0x1EE1F, [0x066F]), (0x1EE21, [0x0628]), (0x1EE22, [0x062C]), (0x1EE24, [0x0647]),
  (0x1EE27, [0x062D]), (0x1EE29, [0x064A]), (0x1EE2A, [0x0643]), (0x1EE2B, [0x0644]),
  (0x1EE2C, [0x0645]), (0x1EE2D, [0x0646]), (0x1EE2E, [0x0633]), (0x1EE2F, [0x0639]),
  (0x1EE30, [0x0641]), (0x1EE31, [0x0635]), (0x1EE32, [0x0642]), (0x1EE34, [0x0634]),
  (0x1EE35, [0x062A]), (0x1EE36, [0x062B]), (0x1EE37, [0x062E]), (0x1EE39, [0x0636]),
  (0x1EE3B, [0x063A]), (0x1EE42, [0x062C]), (0x1EE47, [0x062D]), (0x1EE49, [0x064A]),
  (0x1EE4B, [0x0644]), (0x1EE4D, [0x0646]), (0x1EE4E, [0x0633]), (0x1EE4F, [0x0639]),
  (0x1EE51, [0x0635]), (0x1EE52, [0x0642]), (0x1EE54, [0x0634]), (0x1EE57, [0x062E]),
  (0x1EE59, [0x0636]), (0x1EE5B, [0x063A]), (0x1EE5D, [0x06BA]), (0x1EE5F, [0x066F]),
  (0x1EE61, [0x0628]), (0x1EE62, [0x062C]), (0x1EE64, [0x0647]), (0x1EE67, [0x062D]),
  (0x1EE68, [0x0637]), (0x1EE69, [0x064A]), (0x1EE6A, [0x0643]), (0x1EE6C, [0x0645]),
  (0x1EE6D, [0x0646]), (0x1EE6E, [0x0633]), (0x1EE6F, [0x0639]), (0x1EE70, [0x0641]),
  (0x1EE71, [0x0635]), (0x1EE72, [0x0642]), (0x1EE74, [0x0634]), (0x1EE75, [0x062A]),
  (0x1EE76, [0x062B]), (0x1EE77, [0x062E]), (0x1EE79, [0x0636]), (0x1EE7A, [0x0638]),
  (0x1EE7B, [0x063A]), (0x1EE7C, [0x066E]), (0x1EE7E, [0x06A1]), (0x1EE80, [0x0627]),
  (0x1EE81, [0x0628]), (0x1EE82, [0x062C]), (0x1EE83, [0x062F]), (0x1EE84, [0x0647]),
  (0x1EE85, [0x0648]), (0x1EE86, [0x0632]), (0x1EE87, [0x062D]), (0x1EE88, [0x0637]),
  (0x1EE89, [0x064A]), (0x1EE8B, [0x0644]), (0x1EE8C, [0x0645]), (0x1EE8D, [0x0646]),
  (0x1EE8E, [0x0633]), (0x1EE8F, [0x0639]), (0x1EE90, [0x0641]), (0x1EE91, [0x0635]),
  (0x1EE92, [0x0642]), (0x1EE93, [0x0631]), (0x1EE94, [0x0634]), (0x1EE95, [0x062A]),
  (0x1EE96, [0x062B]), (0x1EE97, [0x062E]), (0x1EE98, [0x0630]), (0x1EE99, [0x0636]),
  (0x1EE9A, [0x0638]), (0x1EE9B, [0x063A]), (0x1EEA1, [0x0628]), (0x1EEA2, [0x062C]),
  (0x1EEA3, [0x062F]), (0x1EEA5, [0x0648]), (0x1EEA6, [0x0632]), (0x1EEA7, [0x062D]),
  (0x1EEA8, [0x0637]), (0x1EEA9, [0x064A]), (0x1EEAB, [0x0644]), (0x1EEAC, [0x0645]),
  (0x1EEAD, [0x0646]), (0x1EEAE, [0x0633]), (0x1EEAF, [0x0639]), (0x1EEB0, [0x0641]),
  (0x1EEB1, [0x0635]), (0x1EEB2, [0x0642]), (0x1EEB3, [0x0631]), (0x1EEB4, [0x0634]),
  (0x1EEB5, [0x062A]), (0x1EEB6, [0x062B]), (0x1EEB7, [0x062E]), (0x1EEB8, [0x0630]),
  (0x1EEB9, [0x0636]), (0x1EEBA, [0x0638]), (0x1EEBB, [0x063A]), (0x1F100, [0x0030, 0x002E]),
  (0x1F101, [0x0030, 0x002C]), (0x1F102, [0x0031, 0x002C]), (0x1F103, [0x0032, 0x002C]),
  (0x1F104, [0x0033, 0x002C]), (0x1F105, [0x0034, 0x002C]), (0x1F106, [0x0035, 0x002C]),
  (0x1F107, [0x0036, 0x002C]), (0x1F108, [0x0037, 0x002C]), (0x1F109, [0x0038, 0x002C]),
  (0x1F10A, [0x0039, 0x002C]), (0x1F110, [0x0028, 0x0041, 0x0029]),
  (0x1F111, [0x0028, 0x0042, 0x0029]), (0x1F112, [0x0028, 0x0043, 0x0029]),
  (0x1F113, [0x0028, 0x0044, 0x0029]), (0x1F114, [0x0028, 0x0045, 0x0029]),
  (0x1F115, [0x0028, 0x0046, 0x0029]), (0x1F116, [0x0028, 0x0047, 0x0029]),
  (0x1F117, [0x0028, 0x0048, 0x0029]), (0x1F118, [0x0028, 0x0049, 0x0029]),
  (0x1F119, [0x0028, 0x004A, 0x0029]), (0x1F11A, [0x0028, 0x004B, 0x0029]),
  (0x1F11B, [0x0028, 0x004C, 0x0029]), (0x1F11C, [0x0028, 0x004D, 0x0029]),
  (0x1F11D, [0x0028, 0x004E, 0x0029]), (0x1F11E, [0x0028, 0x004F, 0x0029]),
  (0x1F11F, [0x0028, 0x0050, 0x0029]), (0x1F120, [0x0028, 0x0051, 0x0029]),
  (0x1F121, [0x0028, 0x0052, 0x0029]), (0x1F122, [0x0028, 0x0053, 0x0029]),
  (0x1F123, [0x0028, 0x0054, 0x0029]), (0x1F124, [0x0028, 0x0055, 0x0029]),
  (0x1F125, [0x0028, 0x0056, 0x0029]), (0x1F126, [0x0028, 0x0057, 0x0029]),
  (0x1F127, [0x0028, 0x0058, 0x0029]), (0x1F128, [0x0028, 0x0059, 0x0029]),
  (0x1F129, [0x0028, 0x005A, 0x0029]), (0x1F12A, [0x3014, 0x0053, 0x3015]), (0x1F12B, [0x0043]),
  (0x1F12C, [0x0052]), (0x1F12D, [0x0043, 0x0044]), (0x1F12E, [0x0057, 0x005A]),
  (0x1F130, [0x0041]), (0x1F131, [0x0042]), (0x1F132, [0x0043]), (0x1F133, [0x0044]),
  (0x1F134, [0x0045]), (0x1F135, [0x0046]), (0x1F136, [0x0047]), (0x1F137, [0x0048]),
  (0x1F138, [0x0049]), (0x1F139, [0x004A]), (0x1F13A, [0x004B]), (0x1F13B, [0x004C]),
  (0x1F13C, [0x004D]), (0x1F13D, [0x004E]), (0x1F13E, [0x004F]), (0x1F13F, [0x0050]),
  (0x1F140, [0x0051]), (0x1F141, [0x0052]), (0x1F142, [0x0053]), (0x1F143, [0x0054]),
  (0x1F144, [0x0055]), (0x1F145, [0x0056]), (0x1F146, [0x0057]), (0x1F147, [0x0058]),
  (0x1F148, [0x0059]), (0x1F149, [0x005A]), (0x1F14A, [0x0048, 0x0056]),
  (0x1F14B, [0x004D, 0x0056]), (0x1F14C, [0x0053, 0x0044]), (0x1F14D, [0x0053, 0x0053]),
  (0x1F14E, [0x0050, 0x0050, 0x0056]), (0x1F14F, [0x0057, 0x0043]), (0x1F16A, [0x004D, 0x0043]),
  (0x1F16B, [0x004D, 0x0044]), (0x1F16C, [0x004D, 0x0052]), (0x1F190, [0x0044, 0x004A]),
  (0x1F200, [0x307B, 0x304B]), (0x1F201, [0x30B3, 0x30B3]), (0x1F202, [0x30B5]),
  (0x1F210, [0x624B]), (0x1F211, [0x5B57]), (0x1F212, [0x53CC]), (0x1F213, [0x30C6, 0x3099]),
  (0x1F214, [0x4E8C]), (0x1F215, [0x591A]), (0x1F216, [0x89E3]), (0x1F217, [0x5929]),
  (0x1F218, [0x4EA4]), (0x1F219, [0x6620]), (0x1F21A, [0x7121]), (0x1F21B, [0x6599]),
  (0x1F21C, [0x524D]), (0x1F21D, [0x5F8C]), (0x1F21E, [0x518D]), (0x1F21F, [0x65B0]),
  (0x1F220, [0x521D]), (0x1F221, [0x7D42]), (0x1F222, [0x751F]), (0x1F223, [0x8CA9]),
  (0x1F224, [0x58F0]), (0x1F225, [0x5439]), (0x1F226, [0x6F14]), (0x1F227, [0x6295]),
  (0x1F228, [0x6355]), (0x1F229, [0x4E00]), (0x1F22A, [0x4E09]), (0x1F22B, [0x904A]),
  (0x1F22C, [0x5DE6]), (0x1F22D, [0x4E2D]), (0x1F22E, [0x53F3]), (0x1F22F, [0x6307]),
  (0x1F230, [0x8D70]), (0x1F231, [0x6253]), (0x1F232, [0x7981]), (0x1F233, [0x7A7A]),
  (0x1F234, [0x5408]), (0x1F235, [0x6E80]), (0x1F236, [0x6709]), (0x1F237, [0x6708]),
  (0x1F238, [0x7533]), (0x1F239, [0x5272]), (0x1F23A, [0x55B6]), (0x1F23B, [0x914D]),
  (0x1F240, [0x3014, 0x672C, 0x3015]), (0x1F241, [0x3014, 0x4E09, 0x3015]),
  (0x1F242, [0x3014, 0x4E8C, 0x3015]), (0x1F243, [0x3014, 0x5B89, 0x3015]),
  (0x1F244, [0x3014, 0x70B9, 0x3015]), (0x1F245, [0x3014, 0x6253, 0x3015]),
  (0x1F246, [0x3014, 0x76D7, 0x3015]), (0x1F247, [0x3014, 0x52DD, 0x3015]),
  (0x1F248, [0x3014, 0x6557, 0x3015]), (0x1F250, [0x5F97]), (0x1F251, [0x53EF]),
  (0x1FBF0, [0x0030]), (0x1FBF1, [0x0031]), (0x1FBF2, [0x0032]), (0x1FBF3, [0x0033]),
  (0x1FBF4, [0x0034]), (0x1FBF5, [0x0035]), (0x1FBF6, [0x0036]), (0x1FBF7, [0x0037]),
  (0x1FBF8, [0x0038]), (0x1FBF9, [0x0039])]

end HdWallet.Unicode.Decomposition
