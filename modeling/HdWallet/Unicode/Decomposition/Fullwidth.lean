/-
Full compatibility decompositions, U+FE00 to U+FFFF:
vertical and small forms, further Arabic forms, and halfwidth and fullwidth forms.
-/

namespace HdWallet.Unicode.Decomposition

set_option maxRecDepth 20000

/-- Each code point with those it decomposes to, followed to the end and in canonical order. -/
def fullwidth : List (Nat × List Nat) := [
  (0xFE10, [0x002C]), (0xFE11, [0x3001]), (0xFE12, [0x3002]), (0xFE13, [0x003A]),
  (0xFE14, [0x003B]), (0xFE15, [0x0021]), (0xFE16, [0x003F]), (0xFE17, [0x3016]),
  (0xFE18, [0x3017]), (0xFE19, [0x002E, 0x002E, 0x002E]), (0xFE30, [0x002E, 0x002E]),
  (0xFE31, [0x2014]), (0xFE32, [0x2013]), (0xFE33, [0x005F]), (0xFE34, [0x005F]),
  (0xFE35, [0x0028]), (0xFE36, [0x0029]), (0xFE37, [0x007B]), (0xFE38, [0x007D]),
  (0xFE39, [0x3014]), (0xFE3A, [0x3015]), (0xFE3B, [0x3010]), (0xFE3C, [0x3011]),
  (0xFE3D, [0x300A]), (0xFE3E, [0x300B]), (0xFE3F, [0x3008]), (0xFE40, [0x3009]),
  (0xFE41, [0x300C]), (0xFE42, [0x300D]), (0xFE43, [0x300E]), (0xFE44, [0x300F]),
  (0xFE47, [0x005B]), (0xFE48, [0x005D]), (0xFE49, [0x0020, 0x0305]), (0xFE4A, [0x0020, 0x0305]),
  (0xFE4B, [0x0020, 0x0305]), (0xFE4C, [0x0020, 0x0305]), (0xFE4D, [0x005F]), (0xFE4E, [0x005F]),
  (0xFE4F, [0x005F]), (0xFE50, [0x002C]), (0xFE51, [0x3001]), (0xFE52, [0x002E]),
  (0xFE54, [0x003B]), (0xFE55, [0x003A]), (0xFE56, [0x003F]), (0xFE57, [0x0021]),
  (0xFE58, [0x2014]), (0xFE59, [0x0028]), (0xFE5A, [0x0029]), (0xFE5B, [0x007B]),
  (0xFE5C, [0x007D]), (0xFE5D, [0x3014]), (0xFE5E, [0x3015]), (0xFE5F, [0x0023]),
  (0xFE60, [0x0026]), (0xFE61, [0x002A]), (0xFE62, [0x002B]), (0xFE63, [0x002D]),
  (0xFE64, [0x003C]), (0xFE65, [0x003E]), (0xFE66, [0x003D]), (0xFE68, [0x005C]),
  (0xFE69, [0x0024]), (0xFE6A, [0x0025]), (0xFE6B, [0x0040]), (0xFE70, [0x0020, 0x064B]),
  (0xFE71, [0x0640, 0x064B]), (0xFE72, [0x0020, 0x064C]), (0xFE74, [0x0020, 0x064D]),
  (0xFE76, [0x0020, 0x064E]), (0xFE77, [0x0640, 0x064E]), (0xFE78, [0x0020, 0x064F]),
  (0xFE79, [0x0640, 0x064F]), (0xFE7A, [0x0020, 0x0650]), (0xFE7B, [0x0640, 0x0650]),
  (0xFE7C, [0x0020, 0x0651]), (0xFE7D, [0x0640, 0x0651]), (0xFE7E, [0x0020, 0x0652]),
  (0xFE7F, [0x0640, 0x0652]), (0xFE80, [0x0621]), (0xFE81, [0x0627, 0x0653]),
  (0xFE82, [0x0627, 0x0653]), (0xFE83, [0x0627, 0x0654]), (0xFE84, [0x0627, 0x0654]),
  (0xFE85, [0x0648, 0x0654]), (0xFE86, [0x0648, 0x0654]), (0xFE87, [0x0627, 0x0655]),
  (0xFE88, [0x0627, 0x0655]), (0xFE89, [0x064A, 0x0654]), (0xFE8A, [0x064A, 0x0654]),
  (0xFE8B, [0x064A, 0x0654]), (0xFE8C, [0x064A, 0x0654]), (0xFE8D, [0x0627]), (0xFE8E, [0x0627]),
  (0xFE8F, [0x0628]), (0xFE90, [0x0628]), (0xFE91, [0x0628]), (0xFE92, [0x0628]),
  (0xFE93, [0x0629]), (0xFE94, [0x0629]), (0xFE95, [0x062A]), (0xFE96, [0x062A]),
  (0xFE97, [0x062A]), (0xFE98, [0x062A]), (0xFE99, [0x062B]), (0xFE9A, [0x062B]),
  (0xFE9B, [0x062B]), (0xFE9C, [0x062B]), (0xFE9D, [0x062C]), (0xFE9E, [0x062C]),
  (0xFE9F, [0x062C]), (0xFEA0, [0x062C]), (0xFEA1, [0x062D]), (0xFEA2, [0x062D]),
  (0xFEA3, [0x062D]), (0xFEA4, [0x062D]), (0xFEA5, [0x062E]), (0xFEA6, [0x062E]),
  (0xFEA7, [0x062E]), (0xFEA8, [0x062E]), (0xFEA9, [0x062F]), (0xFEAA, [0x062F]),
  (0xFEAB, [0x0630]), (0xFEAC, [0x0630]), (0xFEAD, [0x0631]), (0xFEAE, [0x0631]),
  (0xFEAF, [0x0632]), (0xFEB0, [0x0632]), (0xFEB1, [0x0633]), (0xFEB2, [0x0633]),
  (0xFEB3, [0x0633]), (0xFEB4, [0x0633]), (0xFEB5, [0x0634]), (0xFEB6, [0x0634]),
  (0xFEB7, [0x0634]), (0xFEB8, [0x0634]), (0xFEB9, [0x0635]), (0xFEBA, [0x0635]),
  (0xFEBB, [0x0635]), (0xFEBC, [0x0635]), (0xFEBD, [0x0636]), (0xFEBE, [0x0636]),
  (0xFEBF, [0x0636]), (0xFEC0, [0x0636]), (0xFEC1, [0x0637]), (0xFEC2, [0x0637]),
  (0xFEC3, [0x0637]), (0xFEC4, [0x0637]), (0xFEC5, [0x0638]), (0xFEC6, [0x0638]),
  (0xFEC7, [0x0638]), (0xFEC8, [0x0638]), (0xFEC9, [0x0639]), (0xFECA, [0x0639]),
  (0xFECB, [0x0639]), (0xFECC, [0x0639]), (0xFECD, [0x063A]), (0xFECE, [0x063A]),
  (0xFECF, [0x063A]), (0xFED0, [0x063A]), (0xFED1, [0x0641]), (0xFED2, [0x0641]),
  (0xFED3, [0x0641]), (0xFED4, [0x0641]), (0xFED5, [0x0642]), (0xFED6, [0x0642]),
  (0xFED7, [0x0642]), (0xFED8, [0x0642]), (0xFED9, [0x0643]), (0xFEDA, [0x0643]),
  (0xFEDB, [0x0643]), (0xFEDC, [0x0643]), (0xFEDD, [0x0644]), (0xFEDE, [0x0644]),
  (0xFEDF, [0x0644]), (0xFEE0, [0x0644]), (0xFEE1, [0x0645]), (0xFEE2, [0x0645]),
  (0xFEE3, [0x0645]), (0xFEE4, [0x0645]), (0xFEE5, [0x0646]), (0xFEE6, [0x0646]),
  (0xFEE7, [0x0646]), (0xFEE8, [0x0646]), (0xFEE9, [0x0647]), (0xFEEA, [0x0647]),
  (0xFEEB, [0x0647]), (0xFEEC, [0x0647]), (0xFEED, [0x0648]), (0xFEEE, [0x0648]),
  (0xFEEF, [0x0649]), (0xFEF0, [0x0649]), (0xFEF1, [0x064A]), (0xFEF2, [0x064A]),
  (0xFEF3, [0x064A]), (0xFEF4, [0x064A]), (0xFEF5, [0x0644, 0x0627, 0x0653]),
  (0xFEF6, [0x0644, 0x0627, 0x0653]), (0xFEF7, [0x0644, 0x0627, 0x0654]),
  (0xFEF8, [0x0644, 0x0627, 0x0654]), (0xFEF9, [0x0644, 0x0627, 0x0655]),
  (0xFEFA, [0x0644, 0x0627, 0x0655]), (0xFEFB, [0x0644, 0x0627]), (0xFEFC, [0x0644, 0x0627]),
  (0xFF01, [0x0021]), (0xFF02, [0x0022]), (0xFF03, [0x0023]), (0xFF04, [0x0024]),
  (0xFF05, [0x0025]), (0xFF06, [0x0026]), (0xFF07, [0x0027]), (0xFF08, [0x0028]),
  (0xFF09, [0x0029]), (0xFF0A, [0x002A]), (0xFF0B, [0x002B]), (0xFF0C, [0x002C]),
  (0xFF0D, [0x002D]), (0xFF0E, [0x002E]), (0xFF0F, [0x002F]), (0xFF10, [0x0030]),
  (0xFF11, [0x0031]), (0xFF12, [0x0032]), (0xFF13, [0x0033]), (0xFF14, [0x0034]),
  (0xFF15, [0x0035]), (0xFF16, [0x0036]), (0xFF17, [0x0037]), (0xFF18, [0x0038]),
  (0xFF19, [0x0039]), (0xFF1A, [0x003A]), (0xFF1B, [0x003B]), (0xFF1C, [0x003C]),
  (0xFF1D, [0x003D]), (0xFF1E, [0x003E]), (0xFF1F, [0x003F]), (0xFF20, [0x0040]),
  (0xFF21, [0x0041]), (0xFF22, [0x0042]), (0xFF23, [0x0043]), (0xFF24, [0x0044]),
  (0xFF25, [0x0045]), (0xFF26, [0x0046]), (0xFF27, [0x0047]), (0xFF28, [0x0048]),
  (0xFF29, [0x0049]), (0xFF2A, [0x004A]), (0xFF2B, [0x004B]), (0xFF2C, [0x004C]),
  (0xFF2D, [0x004D]), (0xFF2E, [0x004E]), (0xFF2F, [0x004F]), (0xFF30, [0x0050]),
  (0xFF31, [0x0051]), (0xFF32, [0x0052]), (0xFF33, [0x0053]), (0xFF34, [0x0054]),
  (0xFF35, [0x0055]), (0xFF36, [0x0056]), (0xFF37, [0x0057]), (0xFF38, [0x0058]),
  (0xFF39, [0x0059]), (0xFF3A, [0x005A]), (0xFF3B, [0x005B]), (0xFF3C, [0x005C]),
  (0xFF3D, [0x005D]), (0xFF3E, [0x005E]), (0xFF3F, [0x005F]), (0xFF40, [0x0060]),
  (0xFF41, [0x0061]), (0xFF42, [0x0062]), (0xFF43, [0x0063]), (0xFF44, [0x0064]),
  (0xFF45, [0x0065]), (0xFF46, [0x0066]), (0xFF47, [0x0067]), (0xFF48, [0x0068]),
  (0xFF49, [0x0069]), (0xFF4A, [0x006A]), (0xFF4B, [0x006B]), (0xFF4C, [0x006C]),
  (0xFF4D, [0x006D]), (0xFF4E, [0x006E]), (0xFF4F, [0x006F]), (0xFF50, [0x0070]),
  (0xFF51, [0x0071]), (0xFF52, [0x0072]), (0xFF53, [0x0073]), (0xFF54, [0x0074]),
  (0xFF55, [0x0075]), (0xFF56, [0x0076]), (0xFF57, [0x0077]), (0xFF58, [0x0078]),
  (0xFF59, [0x0079]), (0xFF5A, [0x007A]), (0xFF5B, [0x007B]), (0xFF5C, [0x007C]),
  (0xFF5D, [0x007D]), (0xFF5E, [0x007E]), (0xFF5F, [0x2985]), (0xFF60, [0x2986]),
  (0xFF61, [0x3002]), (0xFF62, [0x300C]), (0xFF63, [0x300D]), (0xFF64, [0x3001]),
  (0xFF65, [0x30FB]), (0xFF66, [0x30F2]), (0xFF67, [0x30A1]), (0xFF68, [0x30A3]),
  (0xFF69, [0x30A5]), (0xFF6A, [0x30A7]), (0xFF6B, [0x30A9]), (0xFF6C, [0x30E3]),
  (0xFF6D, [0x30E5]), (0xFF6E, [0x30E7]), (0xFF6F, [0x30C3]), (0xFF70, [0x30FC]),
  (0xFF71, [0x30A2]), (0xFF72, [0x30A4]), (0xFF73, [0x30A6]), (0xFF74, [0x30A8]),
  (0xFF75, [0x30AA]), (0xFF76, [0x30AB]), (0xFF77, [0x30AD]), (0xFF78, [0x30AF]),
  (0xFF79, [0x30B1]), (0xFF7A, [0x30B3]), (0xFF7B, [0x30B5]), (0xFF7C, [0x30B7]),
  (0xFF7D, [0x30B9]), (0xFF7E, [0x30BB]), (0xFF7F, [0x30BD]), (0xFF80, [0x30BF]),
  (0xFF81, [0x30C1]), (0xFF82, [0x30C4]), (0xFF83, [0x30C6]), (0xFF84, [0x30C8]),
  (0xFF85, [0x30CA]), (0xFF86, [0x30CB]), (0xFF87, [0x30CC]), (0xFF88, [0x30CD]),
  (0xFF89, [0x30CE]), (0xFF8A, [0x30CF]), (0xFF8B, [0x30D2]), (0xFF8C, [0x30D5]),
  (0xFF8D, [0x30D8]), (0xFF8E, [0x30DB]), (0xFF8F, [0x30DE]), (0xFF90, [0x30DF]),
  (0xFF91, [0x30E0]), (0xFF92, [0x30E1]), (0xFF93, [0x30E2]), (0xFF94, [0x30E4]),
  (0xFF95, [0x30E6]), (0xFF96, [0x30E8]), (0xFF97, [0x30E9]), (0xFF98, [0x30EA]),
  (0xFF99, [0x30EB]), (0xFF9A, [0x30EC]), (0xFF9B, [0x30ED]), (0xFF9C, [0x30EF]),
  (0xFF9D, [0x30F3]), (0xFF9E, [0x3099]), (0xFF9F, [0x309A]), (0xFFA0, [0x1160]),
  (0xFFA1, [0x1100]), (0xFFA2, [0x1101]), (0xFFA3, [0x11AA]), (0xFFA4, [0x1102]),
  (0xFFA5, [0x11AC]), (0xFFA6, [0x11AD]), (0xFFA7, [0x1103]), (0xFFA8, [0x1104]),
  (0xFFA9, [0x1105]), (0xFFAA, [0x11B0]), (0xFFAB, [0x11B1]), (0xFFAC, [0x11B2]),
  (0xFFAD, [0x11B3]), (0xFFAE, [0x11B4]), (0xFFAF, [0x11B5]), (0xFFB0, [0x111A]),
  (0xFFB1, [0x1106]), (0xFFB2, [0x1107]), (0xFFB3, [0x1108]), (0xFFB4, [0x1121]),
  (0xFFB5, [0x1109]), (0xFFB6, [0x110A]), (0xFFB7, [0x110B]), (0xFFB8, [0x110C]),
  (0xFFB9, [0x110D]), (0xFFBA, [0x110E]), (0xFFBB, [0x110F]), (0xFFBC, [0x1110]),
  (0xFFBD, [0x1111]), (0xFFBE, [0x1112]), (0xFFC2, [0x1161]), (0xFFC3, [0x1162]),
  (0xFFC4, [0x1163]), (0xFFC5, [0x1164]), (0xFFC6, [0x1165]), (0xFFC7, [0x1166]),
  (0xFFCA, [0x1167]), (0xFFCB, [0x1168]), (0xFFCC, [0x1169]), (0xFFCD, [0x116A]),
  (0xFFCE, [0x116B]), (0xFFCF, [0x116C]), (0xFFD2, [0x116D]), (0xFFD3, [0x116E]),
  (0xFFD4, [0x116F]), (0xFFD5, [0x1170]), (0xFFD6, [0x1171]), (0xFFD7, [0x1172]),
  (0xFFDA, [0x1173]), (0xFFDB, [0x1174]), (0xFFDC, [0x1175]), (0xFFE0, [0x00A2]),
  (0xFFE1, [0x00A3]), (0xFFE2, [0x00AC]), (0xFFE3, [0x0020, 0x0304]), (0xFFE4, [0x00A6]),
  (0xFFE5, [0x00A5]), (0xFFE6, [0x20A9]), (0xFFE8, [0x2502]), (0xFFE9, [0x2190]),
  (0xFFEA, [0x2191]), (0xFFEB, [0x2192]), (0xFFEC, [0x2193]), (0xFFED, [0x25A0]),
  (0xFFEE, [0x25CB])]

end HdWallet.Unicode.Decomposition
