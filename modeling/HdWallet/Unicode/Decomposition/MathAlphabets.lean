/-
Full compatibility decompositions, U+1D400 to U+1D6A7:
mathematical alphabets, letters.
-/

namespace HdWallet.Unicode.Decomposition

set_option maxRecDepth 20000

/-- Each code point with those it decomposes to, followed to the end and in canonical order. -/
def mathAlphabets : List (Nat × List Nat) := [
  (0x1D400, [0x0041]), (0x1D401, [0x0042]), (0x1D402, [0x0043]), (0x1D403, [0x0044]),
  (0x1D404, [0x0045]), (0x1D405, [0x0046]), (0x1D406, [0x0047]), (0x1D407, [0x0048]),
  (0x1D408, [0x0049]), (0x1D409, [0x004A]), (0x1D40A, [0x004B]), (0x1D40B, [0x004C]),
  (0x1D40C, [0x004D]), (0x1D40D, [0x004E]), (0x1D40E, [0x004F]), (0x1D40F, [0x0050]),
  (0x1D410, [0x0051]), (0x1D411, [0x0052]), (0x1D412, [0x0053]), (0x1D413, [0x0054]),
  (0x1D414, [0x0055]), (0x1D415, [0x0056]), (0x1D416, [0x0057]), (0x1D417, [0x0058]),
  (0x1D418, [0x0059]), (0x1D419, [0x005A]), (0x1D41A, [0x0061]), (0x1D41B, [0x0062]),
  (0x1D41C, [0x0063]), (0x1D41D, [0x0064]), (0x1D41E, [0x0065]), (0x1D41F, [0x0066]),
  (0x1D420, [0x0067]), (0x1D421, [0x0068]), (0x1D422, [0x0069]), (0x1D423, [0x006A]),
  (0x1D424, [0x006B]), (0x1D425, [0x006C]), (0x1D426, [0x006D]), (0x1D427, [0x006E]),
  (0x1D428, [0x006F]), (0x1D429, [0x0070]), (0x1D42A, [0x0071]), (0x1D42B, [0x0072]),
  (0x1D42C, [0x0073]), (0x1D42D, [0x0074]), (0x1D42E, [0x0075]), (0x1D42F, [0x0076]),
  (0x1D430, [0x0077]), (0x1D431, [0x0078]), (0x1D432, [0x0079]), (0x1D433, [0x007A]),
  (0x1D434, [0x0041]), (0x1D435, [0x0042]), (0x1D436, [0x0043]), (0x1D437, [0x0044]),
  (0x1D438, [0x0045]), (0x1D439, [0x0046]), (0x1D43A, [0x0047]), (0x1D43B, [0x0048]),
  (0x1D43C, [0x0049]), (0x1D43D, [0x004A]), (0x1D43E, [0x004B]), (0x1D43F, [0x004C]),
  (0x1D440, [0x004D]), (0x1D441, [0x004E]), (0x1D442, [0x004F]), (0x1D443, [0x0050]),
  (0x1D444, [0x0051]), (0x1D445, [0x0052]), (0x1D446, [0x0053]), (0x1D447, [0x0054]),
  (0x1D448, [0x0055]), (0x1D449, [0x0056]), (0x1D44A, [0x0057]), (0x1D44B, [0x0058]),
  (0x1D44C, [0x0059]), (0x1D44D, [0x005A]), (0x1D44E, [0x0061]), (0x1D44F, [0x0062]),
  (0x1D450, [0x0063]), (0x1D451, [0x0064]), (0x1D452, [0x0065]), (0x1D453, [0x0066]),
  (0x1D454, [0x0067]), (0x1D456, [0x0069]), (0x1D457, [0x006A]), (0x1D458, [0x006B]),
  (0x1D459, [0x006C]), (0x1D45A, [0x006D]), (0x1D45B, [0x006E]), (0x1D45C, [0x006F]),
  (0x1D45D, [0x0070]), (0x1D45E, [0x0071]), (0x1D45F, [0x0072]), (0x1D460, [0x0073]),
  (0x1D461, [0x0074]), (0x1D462, [0x0075]), (0x1D463, [0x0076]), (0x1D464, [0x0077]),
  (0x1D465, [0x0078]), (0x1D466, [0x0079]), (0x1D467, [0x007A]), (0x1D468, [0x0041]),
  (0x1D469, [0x0042]), (0x1D46A, [0x0043]), (0x1D46B, [0x0044]), (0x1D46C, [0x0045]),
  (0x1D46D, [0x0046]), (0x1D46E, [0x0047]), (0x1D46F, [0x0048]), (0x1D470, [0x0049]),
  (0x1D471, [0x004A]), (0x1D472, [0x004B]), (0x1D473, [0x004C]), (0x1D474, [0x004D]),
  (0x1D475, [0x004E]), (0x1D476, [0x004F]), (0x1D477, [0x0050]), (0x1D478, [0x0051]),
  (0x1D479, [0x0052]), (0x1D47A, [0x0053]), (0x1D47B, [0x0054]), (0x1D47C, [0x0055]),
  (0x1D47D, [0x0056]), (0x1D47E, [0x0057]), (0x1D47F, [0x0058]), (0x1D480, [0x0059]),
  (0x1D481, [0x005A]), (0x1D482, [0x0061]), (0x1D483, [0x0062]), (0x1D484, [0x0063]),
  (0x1D485, [0x0064]), (0x1D486, [0x0065]), (0x1D487, [0x0066]), (0x1D488, [0x0067]),
  (0x1D489, [0x0068]), (0x1D48A, [0x0069]), (0x1D48B, [0x006A]), (0x1D48C, [0x006B]),
  (0x1D48D, [0x006C]), (0x1D48E, [0x006D]), (0x1D48F, [0x006E]), (0x1D490, [0x006F]),
  (0x1D491, [0x0070]), (0x1D492, [0x0071]), (0x1D493, [0x0072]), (0x1D494, [0x0073]),
  (0x1D495, [0x0074]), (0x1D496, [0x0075]), (0x1D497, [0x0076]), (0x1D498, [0x0077]),
  (0x1D499, [0x0078]), (0x1D49A, [0x0079]), (0x1D49B, [0x007A]), (0x1D49C, [0x0041]),
  (0x1D49E, [0x0043]), (0x1D49F, [0x0044]), (0x1D4A2, [0x0047]), (0x1D4A5, [0x004A]),
  (0x1D4A6, [0x004B]), (0x1D4A9, [0x004E]), (0x1D4AA, [0x004F]), (0x1D4AB, [0x0050]),
  (0x1D4AC, [0x0051]), (0x1D4AE, [0x0053]), (0x1D4AF, [0x0054]), (0x1D4B0, [0x0055]),
  (0x1D4B1, [0x0056]), (0x1D4B2, [0x0057]), (0x1D4B3, [0x0058]), (0x1D4B4, [0x0059]),
  (0x1D4B5, [0x005A]), (0x1D4B6, [0x0061]), (0x1D4B7, [0x0062]), (0x1D4B8, [0x0063]),
  (0x1D4B9, [0x0064]), (0x1D4BB, [0x0066]), (0x1D4BD, [0x0068]), (0x1D4BE, [0x0069]),
  (0x1D4BF, [0x006A]), (0x1D4C0, [0x006B]), (0x1D4C1, [0x006C]), (0x1D4C2, [0x006D]),
  (0x1D4C3, [0x006E]), (0x1D4C5, [0x0070]), (0x1D4C6, [0x0071]), (0x1D4C7, [0x0072]),
  (0x1D4C8, [0x0073]), (0x1D4C9, [0x0074]), (0x1D4CA, [0x0075]), (0x1D4CB, [0x0076]),
  (0x1D4CC, [0x0077]), (0x1D4CD, [0x0078]), (0x1D4CE, [0x0079]), (0x1D4CF, [0x007A]),
  (0x1D4D0, [0x0041]), (0x1D4D1, [0x0042]), (0x1D4D2, [0x0043]), (0x1D4D3, [0x0044]),
  (0x1D4D4, [0x0045]), (0x1D4D5, [0x0046]), (0x1D4D6, [0x0047]), (0x1D4D7, [0x0048]),
  (0x1D4D8, [0x0049]), (0x1D4D9, [0x004A]), (0x1D4DA, [0x004B]), (0x1D4DB, [0x004C]),
  (0x1D4DC, [0x004D]), (0x1D4DD, [0x004E]), (0x1D4DE, [0x004F]), (0x1D4DF, [0x0050]),
  (0x1D4E0, [0x0051]), (0x1D4E1, [0x0052]), (0x1D4E2, [0x0053]), (0x1D4E3, [0x0054]),
  (0x1D4E4, [0x0055]), (0x1D4E5, [0x0056]), (0x1D4E6, [0x0057]), (0x1D4E7, [0x0058]),
  (0x1D4E8, [0x0059]), (0x1D4E9, [0x005A]), (0x1D4EA, [0x0061]), (0x1D4EB, [0x0062]),
  (0x1D4EC, [0x0063]), (0x1D4ED, [0x0064]), (0x1D4EE, [0x0065]), (0x1D4EF, [0x0066]),
  (0x1D4F0, [0x0067]), (0x1D4F1, [0x0068]), (0x1D4F2, [0x0069]), (0x1D4F3, [0x006A]),
  (0x1D4F4, [0x006B]), (0x1D4F5, [0x006C]), (0x1D4F6, [0x006D]), (0x1D4F7, [0x006E]),
  (0x1D4F8, [0x006F]), (0x1D4F9, [0x0070]), (0x1D4FA, [0x0071]), (0x1D4FB, [0x0072]),
  (0x1D4FC, [0x0073]), (0x1D4FD, [0x0074]), (0x1D4FE, [0x0075]), (0x1D4FF, [0x0076]),
  (0x1D500, [0x0077]), (0x1D501, [0x0078]), (0x1D502, [0x0079]), (0x1D503, [0x007A]),
  (0x1D504, [0x0041]), (0x1D505, [0x0042]), (0x1D507, [0x0044]), (0x1D508, [0x0045]),
  (0x1D509, [0x0046]), (0x1D50A, [0x0047]), (0x1D50D, [0x004A]), (0x1D50E, [0x004B]),
  (0x1D50F, [0x004C]), (0x1D510, [0x004D]), (0x1D511, [0x004E]), (0x1D512, [0x004F]),
  (0x1D513, [0x0050]), (0x1D514, [0x0051]), (0x1D516, [0x0053]), (0x1D517, [0x0054]),
  (0x1D518, [0x0055]), (0x1D519, [0x0056]), (0x1D51A, [0x0057]), (0x1D51B, [0x0058]),
  (0x1D51C, [0x0059]), (0x1D51E, [0x0061]), (0x1D51F, [0x0062]), (0x1D520, [0x0063]),
  (0x1D521, [0x0064]), (0x1D522, [0x0065]), (0x1D523, [0x0066]), (0x1D524, [0x0067]),
  (0x1D525, [0x0068]), (0x1D526, [0x0069]), (0x1D527, [0x006A]), (0x1D528, [0x006B]),
  (0x1D529, [0x006C]), (0x1D52A, [0x006D]), (0x1D52B, [0x006E]), (0x1D52C, [0x006F]),
  (0x1D52D, [0x0070]), (0x1D52E, [0x0071]), (0x1D52F, [0x0072]), (0x1D530, [0x0073]),
  (0x1D531, [0x0074]), (0x1D532, [0x0075]), (0x1D533, [0x0076]), (0x1D534, [0x0077]),
  (0x1D535, [0x0078]), (0x1D536, [0x0079]), (0x1D537, [0x007A]), (0x1D538, [0x0041]),
  (0x1D539, [0x0042]), (0x1D53B, [0x0044]), (0x1D53C, [0x0045]), (0x1D53D, [0x0046]),
  (0x1D53E, [0x0047]), (0x1D540, [0x0049]), (0x1D541, [0x004A]), (0x1D542, [0x004B]),
  (0x1D543, [0x004C]), (0x1D544, [0x004D]), (0x1D546, [0x004F]), (0x1D54A, [0x0053]),
  (0x1D54B, [0x0054]), (0x1D54C, [0x0055]), (0x1D54D, [0x0056]), (0x1D54E, [0x0057]),
  (0x1D54F, [0x0058]), (0x1D550, [0x0059]), (0x1D552, [0x0061]), (0x1D553, [0x0062]),
  (0x1D554, [0x0063]), (0x1D555, [0x0064]), (0x1D556, [0x0065]), (0x1D557, [0x0066]),
  (0x1D558, [0x0067]), (0x1D559, [0x0068]), (0x1D55A, [0x0069]), (0x1D55B, [0x006A]),
  (0x1D55C, [0x006B]), (0x1D55D, [0x006C]), (0x1D55E, [0x006D]), (0x1D55F, [0x006E]),
  (0x1D560, [0x006F]), (0x1D561, [0x0070]), (0x1D562, [0x0071]), (0x1D563, [0x0072]),
  (0x1D564, [0x0073]), (0x1D565, [0x0074]), (0x1D566, [0x0075]), (0x1D567, [0x0076]),
  (0x1D568, [0x0077]), (0x1D569, [0x0078]), (0x1D56A, [0x0079]), (0x1D56B, [0x007A]),
  (0x1D56C, [0x0041]), (0x1D56D, [0x0042]), (0x1D56E, [0x0043]), (0x1D56F, [0x0044]),
  (0x1D570, [0x0045]), (0x1D571, [0x0046]), (0x1D572, [0x0047]), (0x1D573, [0x0048]),
  (0x1D574, [0x0049]), (0x1D575, [0x004A]), (0x1D576, [0x004B]), (0x1D577, [0x004C]),
  (0x1D578, [0x004D]), (0x1D579, [0x004E]), (0x1D57A, [0x004F]), (0x1D57B, [0x0050]),
  (0x1D57C, [0x0051]), (0x1D57D, [0x0052]), (0x1D57E, [0x0053]), (0x1D57F, [0x0054]),
  (0x1D580, [0x0055]), (0x1D581, [0x0056]), (0x1D582, [0x0057]), (0x1D583, [0x0058]),
  (0x1D584, [0x0059]), (0x1D585, [0x005A]), (0x1D586, [0x0061]), (0x1D587, [0x0062]),
  (0x1D588, [0x0063]), (0x1D589, [0x0064]), (0x1D58A, [0x0065]), (0x1D58B, [0x0066]),
  (0x1D58C, [0x0067]), (0x1D58D, [0x0068]), (0x1D58E, [0x0069]), (0x1D58F, [0x006A]),
  (0x1D590, [0x006B]), (0x1D591, [0x006C]), (0x1D592, [0x006D]), (0x1D593, [0x006E]),
  (0x1D594, [0x006F]), (0x1D595, [0x0070]), (0x1D596, [0x0071]), (0x1D597, [0x0072]),
  (0x1D598, [0x0073]), (0x1D599, [0x0074]), (0x1D59A, [0x0075]), (0x1D59B, [0x0076]),
  (0x1D59C, [0x0077]), (0x1D59D, [0x0078]), (0x1D59E, [0x0079]), (0x1D59F, [0x007A]),
  (0x1D5A0, [0x0041]), (0x1D5A1, [0x0042]), (0x1D5A2, [0x0043]), (0x1D5A3, [0x0044]),
  (0x1D5A4, [0x0045]), (0x1D5A5, [0x0046]), (0x1D5A6, [0x0047]), (0x1D5A7, [0x0048]),
  (0x1D5A8, [0x0049]), (0x1D5A9, [0x004A]), (0x1D5AA, [0x004B]), (0x1D5AB, [0x004C]),
  (0x1D5AC, [0x004D]), (0x1D5AD, [0x004E]), (0x1D5AE, [0x004F]), (0x1D5AF, [0x0050]),
  (0x1D5B0, [0x0051]), (0x1D5B1, [0x0052]), (0x1D5B2, [0x0053]), (0x1D5B3, [0x0054]),
  (0x1D5B4, [0x0055]), (0x1D5B5, [0x0056]), (0x1D5B6, [0x0057]), (0x1D5B7, [0x0058]),
  (0x1D5B8, [0x0059]), (0x1D5B9, [0x005A]), (0x1D5BA, [0x0061]), (0x1D5BB, [0x0062]),
  (0x1D5BC, [0x0063]), (0x1D5BD, [0x0064]), (0x1D5BE, [0x0065]), (0x1D5BF, [0x0066]),
  (0x1D5C0, [0x0067]), (0x1D5C1, [0x0068]), (0x1D5C2, [0x0069]), (0x1D5C3, [0x006A]),
  (0x1D5C4, [0x006B]), (0x1D5C5, [0x006C]), (0x1D5C6, [0x006D]), (0x1D5C7, [0x006E]),
  (0x1D5C8, [0x006F]), (0x1D5C9, [0x0070]), (0x1D5CA, [0x0071]), (0x1D5CB, [0x0072]),
  (0x1D5CC, [0x0073]), (0x1D5CD, [0x0074]), (0x1D5CE, [0x0075]), (0x1D5CF, [0x0076]),
  (0x1D5D0, [0x0077]), (0x1D5D1, [0x0078]), (0x1D5D2, [0x0079]), (0x1D5D3, [0x007A]),
  (0x1D5D4, [0x0041]), (0x1D5D5, [0x0042]), (0x1D5D6, [0x0043]), (0x1D5D7, [0x0044]),
  (0x1D5D8, [0x0045]), (0x1D5D9, [0x0046]), (0x1D5DA, [0x0047]), (0x1D5DB, [0x0048]),
  (0x1D5DC, [0x0049]), (0x1D5DD, [0x004A]), (0x1D5DE, [0x004B]), (0x1D5DF, [0x004C]),
  (0x1D5E0, [0x004D]), (0x1D5E1, [0x004E]), (0x1D5E2, [0x004F]), (0x1D5E3, [0x0050]),
  (0x1D5E4, [0x0051]), (0x1D5E5, [0x0052]), (0x1D5E6, [0x0053]), (0x1D5E7, [0x0054]),
  (0x1D5E8, [0x0055]), (0x1D5E9, [0x0056]), (0x1D5EA, [0x0057]), (0x1D5EB, [0x0058]),
  (0x1D5EC, [0x0059]), (0x1D5ED, [0x005A]), (0x1D5EE, [0x0061]), (0x1D5EF, [0x0062]),
  (0x1D5F0, [0x0063]), (0x1D5F1, [0x0064]), (0x1D5F2, [0x0065]), (0x1D5F3, [0x0066]),
  (0x1D5F4, [0x0067]), (0x1D5F5, [0x0068]), (0x1D5F6, [0x0069]), (0x1D5F7, [0x006A]),
  (0x1D5F8, [0x006B]), (0x1D5F9, [0x006C]), (0x1D5FA, [0x006D]), (0x1D5FB, [0x006E]),
  (0x1D5FC, [0x006F]), (0x1D5FD, [0x0070]), (0x1D5FE, [0x0071]), (0x1D5FF, [0x0072]),
  (0x1D600, [0x0073]), (0x1D601, [0x0074]), (0x1D602, [0x0075]), (0x1D603, [0x0076]),
  (0x1D604, [0x0077]), (0x1D605, [0x0078]), (0x1D606, [0x0079]), (0x1D607, [0x007A]),
  (0x1D608, [0x0041]), (0x1D609, [0x0042]), (0x1D60A, [0x0043]), (0x1D60B, [0x0044]),
  (0x1D60C, [0x0045]), (0x1D60D, [0x0046]), (0x1D60E, [0x0047]), (0x1D60F, [0x0048]),
  (0x1D610, [0x0049]), (0x1D611, [0x004A]), (0x1D612, [0x004B]), (0x1D613, [0x004C]),
  (0x1D614, [0x004D]), (0x1D615, [0x004E]), (0x1D616, [0x004F]), (0x1D617, [0x0050]),
  (0x1D618, [0x0051]), (0x1D619, [0x0052]), (0x1D61A, [0x0053]), (0x1D61B, [0x0054]),
  (0x1D61C, [0x0055]), (0x1D61D, [0x0056]), (0x1D61E, [0x0057]), (0x1D61F, [0x0058]),
  (0x1D620, [0x0059]), (0x1D621, [0x005A]), (0x1D622, [0x0061]), (0x1D623, [0x0062]),
  (0x1D624, [0x0063]), (0x1D625, [0x0064]), (0x1D626, [0x0065]), (0x1D627, [0x0066]),
  (0x1D628, [0x0067]), (0x1D629, [0x0068]), (0x1D62A, [0x0069]), (0x1D62B, [0x006A]),
  (0x1D62C, [0x006B]), (0x1D62D, [0x006C]), (0x1D62E, [0x006D]), (0x1D62F, [0x006E]),
  (0x1D630, [0x006F]), (0x1D631, [0x0070]), (0x1D632, [0x0071]), (0x1D633, [0x0072]),
  (0x1D634, [0x0073]), (0x1D635, [0x0074]), (0x1D636, [0x0075]), (0x1D637, [0x0076]),
  (0x1D638, [0x0077]), (0x1D639, [0x0078]), (0x1D63A, [0x0079]), (0x1D63B, [0x007A]),
  (0x1D63C, [0x0041]), (0x1D63D, [0x0042]), (0x1D63E, [0x0043]), (0x1D63F, [0x0044]),
  (0x1D640, [0x0045]), (0x1D641, [0x0046]), (0x1D642, [0x0047]), (0x1D643, [0x0048]),
  (0x1D644, [0x0049]), (0x1D645, [0x004A]), (0x1D646, [0x004B]), (0x1D647, [0x004C]),
  (0x1D648, [0x004D]), (0x1D649, [0x004E]), (0x1D64A, [0x004F]), (0x1D64B, [0x0050]),
  (0x1D64C, [0x0051]), (0x1D64D, [0x0052]), (0x1D64E, [0x0053]), (0x1D64F, [0x0054]),
  (0x1D650, [0x0055]), (0x1D651, [0x0056]), (0x1D652, [0x0057]), (0x1D653, [0x0058]),
  (0x1D654, [0x0059]), (0x1D655, [0x005A]), (0x1D656, [0x0061]), (0x1D657, [0x0062]),
  (0x1D658, [0x0063]), (0x1D659, [0x0064]), (0x1D65A, [0x0065]), (0x1D65B, [0x0066]),
  (0x1D65C, [0x0067]), (0x1D65D, [0x0068]), (0x1D65E, [0x0069]), (0x1D65F, [0x006A]),
  (0x1D660, [0x006B]), (0x1D661, [0x006C]), (0x1D662, [0x006D]), (0x1D663, [0x006E]),
  (0x1D664, [0x006F]), (0x1D665, [0x0070]), (0x1D666, [0x0071]), (0x1D667, [0x0072]),
  (0x1D668, [0x0073]), (0x1D669, [0x0074]), (0x1D66A, [0x0075]), (0x1D66B, [0x0076]),
  (0x1D66C, [0x0077]), (0x1D66D, [0x0078]), (0x1D66E, [0x0079]), (0x1D66F, [0x007A]),
  (0x1D670, [0x0041]), (0x1D671, [0x0042]), (0x1D672, [0x0043]), (0x1D673, [0x0044]),
  (0x1D674, [0x0045]), (0x1D675, [0x0046]), (0x1D676, [0x0047]), (0x1D677, [0x0048]),
  (0x1D678, [0x0049]), (0x1D679, [0x004A]), (0x1D67A, [0x004B]), (0x1D67B, [0x004C]),
  (0x1D67C, [0x004D]), (0x1D67D, [0x004E]), (0x1D67E, [0x004F]), (0x1D67F, [0x0050]),
  (0x1D680, [0x0051]), (0x1D681, [0x0052]), (0x1D682, [0x0053]), (0x1D683, [0x0054]),
  (0x1D684, [0x0055]), (0x1D685, [0x0056]), (0x1D686, [0x0057]), (0x1D687, [0x0058]),
  (0x1D688, [0x0059]), (0x1D689, [0x005A]), (0x1D68A, [0x0061]), (0x1D68B, [0x0062]),
  (0x1D68C, [0x0063]), (0x1D68D, [0x0064]), (0x1D68E, [0x0065]), (0x1D68F, [0x0066]),
  (0x1D690, [0x0067]), (0x1D691, [0x0068]), (0x1D692, [0x0069]), (0x1D693, [0x006A]),
  (0x1D694, [0x006B]), (0x1D695, [0x006C]), (0x1D696, [0x006D]), (0x1D697, [0x006E]),
  (0x1D698, [0x006F]), (0x1D699, [0x0070]), (0x1D69A, [0x0071]), (0x1D69B, [0x0072]),
  (0x1D69C, [0x0073]), (0x1D69D, [0x0074]), (0x1D69E, [0x0075]), (0x1D69F, [0x0076]),
  (0x1D6A0, [0x0077]), (0x1D6A1, [0x0078]), (0x1D6A2, [0x0079]), (0x1D6A3, [0x007A]),
  (0x1D6A4, [0x0131]), (0x1D6A5, [0x0237])]

end HdWallet.Unicode.Decomposition
