/-
Full compatibility decompositions, U+1D00 to U+1FFF:
phonetic letters, the additional Latin letters and polytonic Greek.
-/

namespace HdWallet.Unicode.Decomposition

set_option maxRecDepth 20000

/-- Each code point with those it decomposes to, followed to the end and in canonical order. -/
def extended : List (Nat × List Nat) := [
  (0x1D2C, [0x0041]), (0x1D2D, [0x00C6]), (0x1D2E, [0x0042]), (0x1D30, [0x0044]),
  (0x1D31, [0x0045]), (0x1D32, [0x018E]), (0x1D33, [0x0047]), (0x1D34, [0x0048]),
  (0x1D35, [0x0049]), (0x1D36, [0x004A]), (0x1D37, [0x004B]), (0x1D38, [0x004C]),
  (0x1D39, [0x004D]), (0x1D3A, [0x004E]), (0x1D3C, [0x004F]), (0x1D3D, [0x0222]),
  (0x1D3E, [0x0050]), (0x1D3F, [0x0052]), (0x1D40, [0x0054]), (0x1D41, [0x0055]),
  (0x1D42, [0x0057]), (0x1D43, [0x0061]), (0x1D44, [0x0250]), (0x1D45, [0x0251]),
  (0x1D46, [0x1D02]), (0x1D47, [0x0062]), (0x1D48, [0x0064]), (0x1D49, [0x0065]),
  (0x1D4A, [0x0259]), (0x1D4B, [0x025B]), (0x1D4C, [0x025C]), (0x1D4D, [0x0067]),
  (0x1D4F, [0x006B]), (0x1D50, [0x006D]), (0x1D51, [0x014B]), (0x1D52, [0x006F]),
  (0x1D53, [0x0254]), (0x1D54, [0x1D16]), (0x1D55, [0x1D17]), (0x1D56, [0x0070]),
  (0x1D57, [0x0074]), (0x1D58, [0x0075]), (0x1D59, [0x1D1D]), (0x1D5A, [0x026F]),
  (0x1D5B, [0x0076]), (0x1D5C, [0x1D25]), (0x1D5D, [0x03B2]), (0x1D5E, [0x03B3]),
  (0x1D5F, [0x03B4]), (0x1D60, [0x03C6]), (0x1D61, [0x03C7]), (0x1D62, [0x0069]),
  (0x1D63, [0x0072]), (0x1D64, [0x0075]), (0x1D65, [0x0076]), (0x1D66, [0x03B2]),
  (0x1D67, [0x03B3]), (0x1D68, [0x03C1]), (0x1D69, [0x03C6]), (0x1D6A, [0x03C7]),
  (0x1D78, [0x043D]), (0x1D9B, [0x0252]), (0x1D9C, [0x0063]), (0x1D9D, [0x0255]),
  (0x1D9E, [0x00F0]), (0x1D9F, [0x025C]), (0x1DA0, [0x0066]), (0x1DA1, [0x025F]),
  (0x1DA2, [0x0261]), (0x1DA3, [0x0265]), (0x1DA4, [0x0268]), (0x1DA5, [0x0269]),
  (0x1DA6, [0x026A]), (0x1DA7, [0x1D7B]), (0x1DA8, [0x029D]), (0x1DA9, [0x026D]),
  (0x1DAA, [0x1D85]), (0x1DAB, [0x029F]), (0x1DAC, [0x0271]), (0x1DAD, [0x0270]),
  (0x1DAE, [0x0272]), (0x1DAF, [0x0273]), (0x1DB0, [0x0274]), (0x1DB1, [0x0275]),
  (0x1DB2, [0x0278]), (0x1DB3, [0x0282]), (0x1DB4, [0x0283]), (0x1DB5, [0x01AB]),
  (0x1DB6, [0x0289]), (0x1DB7, [0x028A]), (0x1DB8, [0x1D1C]), (0x1DB9, [0x028B]),
  (0x1DBA, [0x028C]), (0x1DBB, [0x007A]), (0x1DBC, [0x0290]), (0x1DBD, [0x0291]),
  (0x1DBE, [0x0292]), (0x1DBF, [0x03B8]), (0x1E00, [0x0041, 0x0325]), (0x1E01, [0x0061, 0x0325]),
  (0x1E02, [0x0042, 0x0307]), (0x1E03, [0x0062, 0x0307]), (0x1E04, [0x0042, 0x0323]),
  (0x1E05, [0x0062, 0x0323]), (0x1E06, [0x0042, 0x0331]), (0x1E07, [0x0062, 0x0331]),
  (0x1E08, [0x0043, 0x0327, 0x0301]), (0x1E09, [0x0063, 0x0327, 0x0301]),
  (0x1E0A, [0x0044, 0x0307]), (0x1E0B, [0x0064, 0x0307]), (0x1E0C, [0x0044, 0x0323]),
  (0x1E0D, [0x0064, 0x0323]), (0x1E0E, [0x0044, 0x0331]), (0x1E0F, [0x0064, 0x0331]),
  (0x1E10, [0x0044, 0x0327]), (0x1E11, [0x0064, 0x0327]), (0x1E12, [0x0044, 0x032D]),
  (0x1E13, [0x0064, 0x032D]), (0x1E14, [0x0045, 0x0304, 0x0300]),
  (0x1E15, [0x0065, 0x0304, 0x0300]), (0x1E16, [0x0045, 0x0304, 0x0301]),
  (0x1E17, [0x0065, 0x0304, 0x0301]), (0x1E18, [0x0045, 0x032D]), (0x1E19, [0x0065, 0x032D]),
  (0x1E1A, [0x0045, 0x0330]), (0x1E1B, [0x0065, 0x0330]), (0x1E1C, [0x0045, 0x0327, 0x0306]),
  (0x1E1D, [0x0065, 0x0327, 0x0306]), (0x1E1E, [0x0046, 0x0307]), (0x1E1F, [0x0066, 0x0307]),
  (0x1E20, [0x0047, 0x0304]), (0x1E21, [0x0067, 0x0304]), (0x1E22, [0x0048, 0x0307]),
  (0x1E23, [0x0068, 0x0307]), (0x1E24, [0x0048, 0x0323]), (0x1E25, [0x0068, 0x0323]),
  (0x1E26, [0x0048, 0x0308]), (0x1E27, [0x0068, 0x0308]), (0x1E28, [0x0048, 0x0327]),
  (0x1E29, [0x0068, 0x0327]), (0x1E2A, [0x0048, 0x032E]), (0x1E2B, [0x0068, 0x032E]),
  (0x1E2C, [0x0049, 0x0330]), (0x1E2D, [0x0069, 0x0330]), (0x1E2E, [0x0049, 0x0308, 0x0301]),
  (0x1E2F, [0x0069, 0x0308, 0x0301]), (0x1E30, [0x004B, 0x0301]), (0x1E31, [0x006B, 0x0301]),
  (0x1E32, [0x004B, 0x0323]), (0x1E33, [0x006B, 0x0323]), (0x1E34, [0x004B, 0x0331]),
  (0x1E35, [0x006B, 0x0331]), (0x1E36, [0x004C, 0x0323]), (0x1E37, [0x006C, 0x0323]),
  (0x1E38, [0x004C, 0x0323, 0x0304]), (0x1E39, [0x006C, 0x0323, 0x0304]),
  (0x1E3A, [0x004C, 0x0331]), (0x1E3B, [0x006C, 0x0331]), (0x1E3C, [0x004C, 0x032D]),
  (0x1E3D, [0x006C, 0x032D]), (0x1E3E, [0x004D, 0x0301]), (0x1E3F, [0x006D, 0x0301]),
  (0x1E40, [0x004D, 0x0307]), (0x1E41, [0x006D, 0x0307]), (0x1E42, [0x004D, 0x0323]),
  (0x1E43, [0x006D, 0x0323]), (0x1E44, [0x004E, 0x0307]), (0x1E45, [0x006E, 0x0307]),
  (0x1E46, [0x004E, 0x0323]), (0x1E47, [0x006E, 0x0323]), (0x1E48, [0x004E, 0x0331]),
  (0x1E49, [0x006E, 0x0331]), (0x1E4A, [0x004E, 0x032D]), (0x1E4B, [0x006E, 0x032D]),
  (0x1E4C, [0x004F, 0x0303, 0x0301]), (0x1E4D, [0x006F, 0x0303, 0x0301]),
  (0x1E4E, [0x004F, 0x0303, 0x0308]), (0x1E4F, [0x006F, 0x0303, 0x0308]),
  (0x1E50, [0x004F, 0x0304, 0x0300]), (0x1E51, [0x006F, 0x0304, 0x0300]),
  (0x1E52, [0x004F, 0x0304, 0x0301]), (0x1E53, [0x006F, 0x0304, 0x0301]),
  (0x1E54, [0x0050, 0x0301]), (0x1E55, [0x0070, 0x0301]), (0x1E56, [0x0050, 0x0307]),
  (0x1E57, [0x0070, 0x0307]), (0x1E58, [0x0052, 0x0307]), (0x1E59, [0x0072, 0x0307]),
  (0x1E5A, [0x0052, 0x0323]), (0x1E5B, [0x0072, 0x0323]), (0x1E5C, [0x0052, 0x0323, 0x0304]),
  (0x1E5D, [0x0072, 0x0323, 0x0304]), (0x1E5E, [0x0052, 0x0331]), (0x1E5F, [0x0072, 0x0331]),
  (0x1E60, [0x0053, 0x0307]), (0x1E61, [0x0073, 0x0307]), (0x1E62, [0x0053, 0x0323]),
  (0x1E63, [0x0073, 0x0323]), (0x1E64, [0x0053, 0x0301, 0x0307]),
  (0x1E65, [0x0073, 0x0301, 0x0307]), (0x1E66, [0x0053, 0x030C, 0x0307]),
  (0x1E67, [0x0073, 0x030C, 0x0307]), (0x1E68, [0x0053, 0x0323, 0x0307]),
  (0x1E69, [0x0073, 0x0323, 0x0307]), (0x1E6A, [0x0054, 0x0307]), (0x1E6B, [0x0074, 0x0307]),
  (0x1E6C, [0x0054, 0x0323]), (0x1E6D, [0x0074, 0x0323]), (0x1E6E, [0x0054, 0x0331]),
  (0x1E6F, [0x0074, 0x0331]), (0x1E70, [0x0054, 0x032D]), (0x1E71, [0x0074, 0x032D]),
  (0x1E72, [0x0055, 0x0324]), (0x1E73, [0x0075, 0x0324]), (0x1E74, [0x0055, 0x0330]),
  (0x1E75, [0x0075, 0x0330]), (0x1E76, [0x0055, 0x032D]), (0x1E77, [0x0075, 0x032D]),
  (0x1E78, [0x0055, 0x0303, 0x0301]), (0x1E79, [0x0075, 0x0303, 0x0301]),
  (0x1E7A, [0x0055, 0x0304, 0x0308]), (0x1E7B, [0x0075, 0x0304, 0x0308]),
  (0x1E7C, [0x0056, 0x0303]), (0x1E7D, [0x0076, 0x0303]), (0x1E7E, [0x0056, 0x0323]),
  (0x1E7F, [0x0076, 0x0323]), (0x1E80, [0x0057, 0x0300]), (0x1E81, [0x0077, 0x0300]),
  (0x1E82, [0x0057, 0x0301]), (0x1E83, [0x0077, 0x0301]), (0x1E84, [0x0057, 0x0308]),
  (0x1E85, [0x0077, 0x0308]), (0x1E86, [0x0057, 0x0307]), (0x1E87, [0x0077, 0x0307]),
  (0x1E88, [0x0057, 0x0323]), (0x1E89, [0x0077, 0x0323]), (0x1E8A, [0x0058, 0x0307]),
  (0x1E8B, [0x0078, 0x0307]), (0x1E8C, [0x0058, 0x0308]), (0x1E8D, [0x0078, 0x0308]),
  (0x1E8E, [0x0059, 0x0307]), (0x1E8F, [0x0079, 0x0307]), (0x1E90, [0x005A, 0x0302]),
  (0x1E91, [0x007A, 0x0302]), (0x1E92, [0x005A, 0x0323]), (0x1E93, [0x007A, 0x0323]),
  (0x1E94, [0x005A, 0x0331]), (0x1E95, [0x007A, 0x0331]), (0x1E96, [0x0068, 0x0331]),
  (0x1E97, [0x0074, 0x0308]), (0x1E98, [0x0077, 0x030A]), (0x1E99, [0x0079, 0x030A]),
  (0x1E9A, [0x0061, 0x02BE]), (0x1E9B, [0x0073, 0x0307]), (0x1EA0, [0x0041, 0x0323]),
  (0x1EA1, [0x0061, 0x0323]), (0x1EA2, [0x0041, 0x0309]), (0x1EA3, [0x0061, 0x0309]),
  (0x1EA4, [0x0041, 0x0302, 0x0301]), (0x1EA5, [0x0061, 0x0302, 0x0301]),
  (0x1EA6, [0x0041, 0x0302, 0x0300]), (0x1EA7, [0x0061, 0x0302, 0x0300]),
  (0x1EA8, [0x0041, 0x0302, 0x0309]), (0x1EA9, [0x0061, 0x0302, 0x0309]),
  (0x1EAA, [0x0041, 0x0302, 0x0303]), (0x1EAB, [0x0061, 0x0302, 0x0303]),
  (0x1EAC, [0x0041, 0x0323, 0x0302]), (0x1EAD, [0x0061, 0x0323, 0x0302]),
  (0x1EAE, [0x0041, 0x0306, 0x0301]), (0x1EAF, [0x0061, 0x0306, 0x0301]),
  (0x1EB0, [0x0041, 0x0306, 0x0300]), (0x1EB1, [0x0061, 0x0306, 0x0300]),
  (0x1EB2, [0x0041, 0x0306, 0x0309]), (0x1EB3, [0x0061, 0x0306, 0x0309]),
  (0x1EB4, [0x0041, 0x0306, 0x0303]), (0x1EB5, [0x0061, 0x0306, 0x0303]),
  (0x1EB6, [0x0041, 0x0323, 0x0306]), (0x1EB7, [0x0061, 0x0323, 0x0306]),
  (0x1EB8, [0x0045, 0x0323]), (0x1EB9, [0x0065, 0x0323]), (0x1EBA, [0x0045, 0x0309]),
  (0x1EBB, [0x0065, 0x0309]), (0x1EBC, [0x0045, 0x0303]), (0x1EBD, [0x0065, 0x0303]),
  (0x1EBE, [0x0045, 0x0302, 0x0301]), (0x1EBF, [0x0065, 0x0302, 0x0301]),
  (0x1EC0, [0x0045, 0x0302, 0x0300]), (0x1EC1, [0x0065, 0x0302, 0x0300]),
  (0x1EC2, [0x0045, 0x0302, 0x0309]), (0x1EC3, [0x0065, 0x0302, 0x0309]),
  (0x1EC4, [0x0045, 0x0302, 0x0303]), (0x1EC5, [0x0065, 0x0302, 0x0303]),
  (0x1EC6, [0x0045, 0x0323, 0x0302]), (0x1EC7, [0x0065, 0x0323, 0x0302]),
  (0x1EC8, [0x0049, 0x0309]), (0x1EC9, [0x0069, 0x0309]), (0x1ECA, [0x0049, 0x0323]),
  (0x1ECB, [0x0069, 0x0323]), (0x1ECC, [0x004F, 0x0323]), (0x1ECD, [0x006F, 0x0323]),
  (0x1ECE, [0x004F, 0x0309]), (0x1ECF, [0x006F, 0x0309]), (0x1ED0, [0x004F, 0x0302, 0x0301]),
  (0x1ED1, [0x006F, 0x0302, 0x0301]), (0x1ED2, [0x004F, 0x0302, 0x0300]),
  (0x1ED3, [0x006F, 0x0302, 0x0300]), (0x1ED4, [0x004F, 0x0302, 0x0309]),
  (0x1ED5, [0x006F, 0x0302, 0x0309]), (0x1ED6, [0x004F, 0x0302, 0x0303]),
  (0x1ED7, [0x006F, 0x0302, 0x0303]), (0x1ED8, [0x004F, 0x0323, 0x0302]),
  (0x1ED9, [0x006F, 0x0323, 0x0302]), (0x1EDA, [0x004F, 0x031B, 0x0301]),
  (0x1EDB, [0x006F, 0x031B, 0x0301]), (0x1EDC, [0x004F, 0x031B, 0x0300]),
  (0x1EDD, [0x006F, 0x031B, 0x0300]), (0x1EDE, [0x004F, 0x031B, 0x0309]),
  (0x1EDF, [0x006F, 0x031B, 0x0309]), (0x1EE0, [0x004F, 0x031B, 0x0303]),
  (0x1EE1, [0x006F, 0x031B, 0x0303]), (0x1EE2, [0x004F, 0x031B, 0x0323]),
  (0x1EE3, [0x006F, 0x031B, 0x0323]), (0x1EE4, [0x0055, 0x0323]), (0x1EE5, [0x0075, 0x0323]),
  (0x1EE6, [0x0055, 0x0309]), (0x1EE7, [0x0075, 0x0309]), (0x1EE8, [0x0055, 0x031B, 0x0301]),
  (0x1EE9, [0x0075, 0x031B, 0x0301]), (0x1EEA, [0x0055, 0x031B, 0x0300]),
  (0x1EEB, [0x0075, 0x031B, 0x0300]), (0x1EEC, [0x0055, 0x031B, 0x0309]),
  (0x1EED, [0x0075, 0x031B, 0x0309]), (0x1EEE, [0x0055, 0x031B, 0x0303]),
  (0x1EEF, [0x0075, 0x031B, 0x0303]), (0x1EF0, [0x0055, 0x031B, 0x0323]),
  (0x1EF1, [0x0075, 0x031B, 0x0323]), (0x1EF2, [0x0059, 0x0300]), (0x1EF3, [0x0079, 0x0300]),
  (0x1EF4, [0x0059, 0x0323]), (0x1EF5, [0x0079, 0x0323]), (0x1EF6, [0x0059, 0x0309]),
  (0x1EF7, [0x0079, 0x0309]), (0x1EF8, [0x0059, 0x0303]), (0x1EF9, [0x0079, 0x0303]),
  (0x1F00, [0x03B1, 0x0313]), (0x1F01, [0x03B1, 0x0314]), (0x1F02, [0x03B1, 0x0313, 0x0300]),
  (0x1F03, [0x03B1, 0x0314, 0x0300]), (0x1F04, [0x03B1, 0x0313, 0x0301]),
  (0x1F05, [0x03B1, 0x0314, 0x0301]), (0x1F06, [0x03B1, 0x0313, 0x0342]),
  (0x1F07, [0x03B1, 0x0314, 0x0342]), (0x1F08, [0x0391, 0x0313]), (0x1F09, [0x0391, 0x0314]),
  (0x1F0A, [0x0391, 0x0313, 0x0300]), (0x1F0B, [0x0391, 0x0314, 0x0300]),
  (0x1F0C, [0x0391, 0x0313, 0x0301]), (0x1F0D, [0x0391, 0x0314, 0x0301]),
  (0x1F0E, [0x0391, 0x0313, 0x0342]), (0x1F0F, [0x0391, 0x0314, 0x0342]),
  (0x1F10, [0x03B5, 0x0313]), (0x1F11, [0x03B5, 0x0314]), (0x1F12, [0x03B5, 0x0313, 0x0300]),
  (0x1F13, [0x03B5, 0x0314, 0x0300]), (0x1F14, [0x03B5, 0x0313, 0x0301]),
  (0x1F15, [0x03B5, 0x0314, 0x0301]), (0x1F18, [0x0395, 0x0313]), (0x1F19, [0x0395, 0x0314]),
  (0x1F1A, [0x0395, 0x0313, 0x0300]), (0x1F1B, [0x0395, 0x0314, 0x0300]),
  (0x1F1C, [0x0395, 0x0313, 0x0301]), (0x1F1D, [0x0395, 0x0314, 0x0301]),
  (0x1F20, [0x03B7, 0x0313]), (0x1F21, [0x03B7, 0x0314]), (0x1F22, [0x03B7, 0x0313, 0x0300]),
  (0x1F23, [0x03B7, 0x0314, 0x0300]), (0x1F24, [0x03B7, 0x0313, 0x0301]),
  (0x1F25, [0x03B7, 0x0314, 0x0301]), (0x1F26, [0x03B7, 0x0313, 0x0342]),
  (0x1F27, [0x03B7, 0x0314, 0x0342]), (0x1F28, [0x0397, 0x0313]), (0x1F29, [0x0397, 0x0314]),
  (0x1F2A, [0x0397, 0x0313, 0x0300]), (0x1F2B, [0x0397, 0x0314, 0x0300]),
  (0x1F2C, [0x0397, 0x0313, 0x0301]), (0x1F2D, [0x0397, 0x0314, 0x0301]),
  (0x1F2E, [0x0397, 0x0313, 0x0342]), (0x1F2F, [0x0397, 0x0314, 0x0342]),
  (0x1F30, [0x03B9, 0x0313]), (0x1F31, [0x03B9, 0x0314]), (0x1F32, [0x03B9, 0x0313, 0x0300]),
  (0x1F33, [0x03B9, 0x0314, 0x0300]), (0x1F34, [0x03B9, 0x0313, 0x0301]),
  (0x1F35, [0x03B9, 0x0314, 0x0301]), (0x1F36, [0x03B9, 0x0313, 0x0342]),
  (0x1F37, [0x03B9, 0x0314, 0x0342]), (0x1F38, [0x0399, 0x0313]), (0x1F39, [0x0399, 0x0314]),
  (0x1F3A, [0x0399, 0x0313, 0x0300]), (0x1F3B, [0x0399, 0x0314, 0x0300]),
  (0x1F3C, [0x0399, 0x0313, 0x0301]), (0x1F3D, [0x0399, 0x0314, 0x0301]),
  (0x1F3E, [0x0399, 0x0313, 0x0342]), (0x1F3F, [0x0399, 0x0314, 0x0342]),
  (0x1F40, [0x03BF, 0x0313]), (0x1F41, [0x03BF, 0x0314]), (0x1F42, [0x03BF, 0x0313, 0x0300]),
  (0x1F43, [0x03BF, 0x0314, 0x0300]), (0x1F44, [0x03BF, 0x0313, 0x0301]),
  (0x1F45, [0x03BF, 0x0314, 0x0301]), (0x1F48, [0x039F, 0x0313]), (0x1F49, [0x039F, 0x0314]),
  (0x1F4A, [0x039F, 0x0313, 0x0300]), (0x1F4B, [0x039F, 0x0314, 0x0300]),
  (0x1F4C, [0x039F, 0x0313, 0x0301]), (0x1F4D, [0x039F, 0x0314, 0x0301]),
  (0x1F50, [0x03C5, 0x0313]), (0x1F51, [0x03C5, 0x0314]), (0x1F52, [0x03C5, 0x0313, 0x0300]),
  (0x1F53, [0x03C5, 0x0314, 0x0300]), (0x1F54, [0x03C5, 0x0313, 0x0301]),
  (0x1F55, [0x03C5, 0x0314, 0x0301]), (0x1F56, [0x03C5, 0x0313, 0x0342]),
  (0x1F57, [0x03C5, 0x0314, 0x0342]), (0x1F59, [0x03A5, 0x0314]),
  (0x1F5B, [0x03A5, 0x0314, 0x0300]), (0x1F5D, [0x03A5, 0x0314, 0x0301]),
  (0x1F5F, [0x03A5, 0x0314, 0x0342]), (0x1F60, [0x03C9, 0x0313]), (0x1F61, [0x03C9, 0x0314]),
  (0x1F62, [0x03C9, 0x0313, 0x0300]), (0x1F63, [0x03C9, 0x0314, 0x0300]),
  (0x1F64, [0x03C9, 0x0313, 0x0301]), (0x1F65, [0x03C9, 0x0314, 0x0301]),
  (0x1F66, [0x03C9, 0x0313, 0x0342]), (0x1F67, [0x03C9, 0x0314, 0x0342]),
  (0x1F68, [0x03A9, 0x0313]), (0x1F69, [0x03A9, 0x0314]), (0x1F6A, [0x03A9, 0x0313, 0x0300]),
  (0x1F6B, [0x03A9, 0x0314, 0x0300]), (0x1F6C, [0x03A9, 0x0313, 0x0301]),
  (0x1F6D, [0x03A9, 0x0314, 0x0301]), (0x1F6E, [0x03A9, 0x0313, 0x0342]),
  (0x1F6F, [0x03A9, 0x0314, 0x0342]), (0x1F70, [0x03B1, 0x0300]), (0x1F71, [0x03B1, 0x0301]),
  (0x1F72, [0x03B5, 0x0300]), (0x1F73, [0x03B5, 0x0301]), (0x1F74, [0x03B7, 0x0300]),
  (0x1F75, [0x03B7, 0x0301]), (0x1F76, [0x03B9, 0x0300]), (0x1F77, [0x03B9, 0x0301]),
  (0x1F78, [0x03BF, 0x0300]), (0x1F79, [0x03BF, 0x0301]), (0x1F7A, [0x03C5, 0x0300]),
  (0x1F7B, [0x03C5, 0x0301]), (0x1F7C, [0x03C9, 0x0300]), (0x1F7D, [0x03C9, 0x0301]),
  (0x1F80, [0x03B1, 0x0313, 0x0345]), (0x1F81, [0x03B1, 0x0314, 0x0345]),
  (0x1F82, [0x03B1, 0x0313, 0x0300, 0x0345]), (0x1F83, [0x03B1, 0x0314, 0x0300, 0x0345]),
  (0x1F84, [0x03B1, 0x0313, 0x0301, 0x0345]), (0x1F85, [0x03B1, 0x0314, 0x0301, 0x0345]),
  (0x1F86, [0x03B1, 0x0313, 0x0342, 0x0345]), (0x1F87, [0x03B1, 0x0314, 0x0342, 0x0345]),
  (0x1F88, [0x0391, 0x0313, 0x0345]), (0x1F89, [0x0391, 0x0314, 0x0345]),
  (0x1F8A, [0x0391, 0x0313, 0x0300, 0x0345]), (0x1F8B, [0x0391, 0x0314, 0x0300, 0x0345]),
  (0x1F8C, [0x0391, 0x0313, 0x0301, 0x0345]), (0x1F8D, [0x0391, 0x0314, 0x0301, 0x0345]),
  (0x1F8E, [0x0391, 0x0313, 0x0342, 0x0345]), (0x1F8F, [0x0391, 0x0314, 0x0342, 0x0345]),
  (0x1F90, [0x03B7, 0x0313, 0x0345]), (0x1F91, [0x03B7, 0x0314, 0x0345]),
  (0x1F92, [0x03B7, 0x0313, 0x0300, 0x0345]), (0x1F93, [0x03B7, 0x0314, 0x0300, 0x0345]),
  (0x1F94, [0x03B7, 0x0313, 0x0301, 0x0345]), (0x1F95, [0x03B7, 0x0314, 0x0301, 0x0345]),
  (0x1F96, [0x03B7, 0x0313, 0x0342, 0x0345]), (0x1F97, [0x03B7, 0x0314, 0x0342, 0x0345]),
  (0x1F98, [0x0397, 0x0313, 0x0345]), (0x1F99, [0x0397, 0x0314, 0x0345]),
  (0x1F9A, [0x0397, 0x0313, 0x0300, 0x0345]), (0x1F9B, [0x0397, 0x0314, 0x0300, 0x0345]),
  (0x1F9C, [0x0397, 0x0313, 0x0301, 0x0345]), (0x1F9D, [0x0397, 0x0314, 0x0301, 0x0345]),
  (0x1F9E, [0x0397, 0x0313, 0x0342, 0x0345]), (0x1F9F, [0x0397, 0x0314, 0x0342, 0x0345]),
  (0x1FA0, [0x03C9, 0x0313, 0x0345]), (0x1FA1, [0x03C9, 0x0314, 0x0345]),
  (0x1FA2, [0x03C9, 0x0313, 0x0300, 0x0345]), (0x1FA3, [0x03C9, 0x0314, 0x0300, 0x0345]),
  (0x1FA4, [0x03C9, 0x0313, 0x0301, 0x0345]), (0x1FA5, [0x03C9, 0x0314, 0x0301, 0x0345]),
  (0x1FA6, [0x03C9, 0x0313, 0x0342, 0x0345]), (0x1FA7, [0x03C9, 0x0314, 0x0342, 0x0345]),
  (0x1FA8, [0x03A9, 0x0313, 0x0345]), (0x1FA9, [0x03A9, 0x0314, 0x0345]),
  (0x1FAA, [0x03A9, 0x0313, 0x0300, 0x0345]), (0x1FAB, [0x03A9, 0x0314, 0x0300, 0x0345]),
  (0x1FAC, [0x03A9, 0x0313, 0x0301, 0x0345]), (0x1FAD, [0x03A9, 0x0314, 0x0301, 0x0345]),
  (0x1FAE, [0x03A9, 0x0313, 0x0342, 0x0345]), (0x1FAF, [0x03A9, 0x0314, 0x0342, 0x0345]),
  (0x1FB0, [0x03B1, 0x0306]), (0x1FB1, [0x03B1, 0x0304]), (0x1FB2, [0x03B1, 0x0300, 0x0345]),
  (0x1FB3, [0x03B1, 0x0345]), (0x1FB4, [0x03B1, 0x0301, 0x0345]), (0x1FB6, [0x03B1, 0x0342]),
  (0x1FB7, [0x03B1, 0x0342, 0x0345]), (0x1FB8, [0x0391, 0x0306]), (0x1FB9, [0x0391, 0x0304]),
  (0x1FBA, [0x0391, 0x0300]), (0x1FBB, [0x0391, 0x0301]), (0x1FBC, [0x0391, 0x0345]),
  (0x1FBD, [0x0020, 0x0313]), (0x1FBE, [0x03B9]), (0x1FBF, [0x0020, 0x0313]),
  (0x1FC0, [0x0020, 0x0342]), (0x1FC1, [0x0020, 0x0308, 0x0342]),
  (0x1FC2, [0x03B7, 0x0300, 0x0345]), (0x1FC3, [0x03B7, 0x0345]),
  (0x1FC4, [0x03B7, 0x0301, 0x0345]), (0x1FC6, [0x03B7, 0x0342]),
  (0x1FC7, [0x03B7, 0x0342, 0x0345]), (0x1FC8, [0x0395, 0x0300]), (0x1FC9, [0x0395, 0x0301]),
  (0x1FCA, [0x0397, 0x0300]), (0x1FCB, [0x0397, 0x0301]), (0x1FCC, [0x0397, 0x0345]),
  (0x1FCD, [0x0020, 0x0313, 0x0300]), (0x1FCE, [0x0020, 0x0313, 0x0301]),
  (0x1FCF, [0x0020, 0x0313, 0x0342]), (0x1FD0, [0x03B9, 0x0306]), (0x1FD1, [0x03B9, 0x0304]),
  (0x1FD2, [0x03B9, 0x0308, 0x0300]), (0x1FD3, [0x03B9, 0x0308, 0x0301]),
  (0x1FD6, [0x03B9, 0x0342]), (0x1FD7, [0x03B9, 0x0308, 0x0342]), (0x1FD8, [0x0399, 0x0306]),
  (0x1FD9, [0x0399, 0x0304]), (0x1FDA, [0x0399, 0x0300]), (0x1FDB, [0x0399, 0x0301]),
  (0x1FDD, [0x0020, 0x0314, 0x0300]), (0x1FDE, [0x0020, 0x0314, 0x0301]),
  (0x1FDF, [0x0020, 0x0314, 0x0342]), (0x1FE0, [0x03C5, 0x0306]), (0x1FE1, [0x03C5, 0x0304]),
  (0x1FE2, [0x03C5, 0x0308, 0x0300]), (0x1FE3, [0x03C5, 0x0308, 0x0301]),
  (0x1FE4, [0x03C1, 0x0313]), (0x1FE5, [0x03C1, 0x0314]), (0x1FE6, [0x03C5, 0x0342]),
  (0x1FE7, [0x03C5, 0x0308, 0x0342]), (0x1FE8, [0x03A5, 0x0306]), (0x1FE9, [0x03A5, 0x0304]),
  (0x1FEA, [0x03A5, 0x0300]), (0x1FEB, [0x03A5, 0x0301]), (0x1FEC, [0x03A1, 0x0314]),
  (0x1FED, [0x0020, 0x0308, 0x0300]), (0x1FEE, [0x0020, 0x0308, 0x0301]), (0x1FEF, [0x0060]),
  (0x1FF2, [0x03C9, 0x0300, 0x0345]), (0x1FF3, [0x03C9, 0x0345]),
  (0x1FF4, [0x03C9, 0x0301, 0x0345]), (0x1FF6, [0x03C9, 0x0342]),
  (0x1FF7, [0x03C9, 0x0342, 0x0345]), (0x1FF8, [0x039F, 0x0300]), (0x1FF9, [0x039F, 0x0301]),
  (0x1FFA, [0x03A9, 0x0300]), (0x1FFB, [0x03A9, 0x0301]), (0x1FFC, [0x03A9, 0x0345]),
  (0x1FFD, [0x0020, 0x0301]), (0x1FFE, [0x0020, 0x0314])]

end HdWallet.Unicode.Decomposition
