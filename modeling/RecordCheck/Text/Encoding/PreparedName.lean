import RecordCheck.Text.Composition
import RecordCheck.Text.Ranges

/-!
# Prepared names

Names that are compared by their characters have a prepared form: without case, in composed form,
without characters that look like others or cannot be seen, and with one direction of writing. A
name is in that form exactly when preparing it changes nothing.

## Main definitions

* `isPrepared`: whether a name, given by code points, is in its prepared form.
-/
set_option autoImplicit false

namespace RecordCheck.Text.Encoding

/-- The characters beyond ASCII that preparing leaves as they are. -/
def preparedRanges : List (Nat × Nat) :=
  [(0xA1, 0xA7), (0xA9, 0xA9), (0xAB, 0xAC), (0xAE, 0xAE), (0xB0, 0xB1), (0xB6, 0xB7),
   (0xBB, 0xBB), (0xBF, 0xBF), (0xD7, 0xD7), (0xE0, 0xFF), (0x101, 0x101), (0x103, 0x103),
   (0x105, 0x105), (0x107, 0x107), (0x109, 0x109), (0x10B, 0x10B), (0x10D, 0x10D), (0x10F, 0x10F),
   (0x111, 0x111), (0x113, 0x113), (0x115, 0x115), (0x117, 0x117), (0x119, 0x119), (0x11B, 0x11B),
   (0x11D, 0x11D), (0x11F, 0x11F), (0x121, 0x121), (0x123, 0x123), (0x125, 0x125), (0x127, 0x127),
   (0x129, 0x129), (0x12B, 0x12B), (0x12D, 0x12D), (0x12F, 0x12F), (0x131, 0x131), (0x135, 0x135),
   (0x137, 0x138), (0x13A, 0x13A), (0x13C, 0x13C), (0x13E, 0x13E), (0x142, 0x142), (0x144, 0x144),
   (0x146, 0x146), (0x148, 0x148), (0x14B, 0x14B), (0x14D, 0x14D), (0x14F, 0x14F), (0x151, 0x151),
   (0x153, 0x153), (0x155, 0x155), (0x157, 0x157), (0x159, 0x159), (0x15B, 0x15B), (0x15D, 0x15D),
   (0x15F, 0x15F), (0x161, 0x161), (0x163, 0x163), (0x165, 0x165), (0x167, 0x167), (0x169, 0x169),
   (0x16B, 0x16B), (0x16D, 0x16D), (0x16F, 0x16F), (0x171, 0x171), (0x173, 0x173), (0x175, 0x175),
   (0x177, 0x177), (0x17A, 0x17A), (0x17C, 0x17C), (0x17E, 0x17E), (0x180, 0x180), (0x183, 0x183),
   (0x185, 0x185), (0x188, 0x188), (0x18C, 0x18D), (0x192, 0x192), (0x195, 0x195), (0x199, 0x19B),
   (0x19E, 0x19E), (0x1A1, 0x1A1), (0x1A3, 0x1A3), (0x1A5, 0x1A5), (0x1A8, 0x1A8), (0x1AA, 0x1AB),
   (0x1AD, 0x1AD), (0x1B0, 0x1B0), (0x1B4, 0x1B4), (0x1B6, 0x1B6), (0x1B9, 0x1BB), (0x1BD, 0x1C3),
   (0x1CE, 0x1CE), (0x1D0, 0x1D0), (0x1D2, 0x1D2), (0x1D4, 0x1D4), (0x1D6, 0x1D6), (0x1D8, 0x1D8),
   (0x1DA, 0x1DA), (0x1DC, 0x1DD), (0x1DF, 0x1DF), (0x1E1, 0x1E1), (0x1E3, 0x1E3), (0x1E5, 0x1E5),
   (0x1E7, 0x1E7), (0x1E9, 0x1E9), (0x1EB, 0x1EB), (0x1ED, 0x1ED), (0x1EF, 0x1F0), (0x1F5, 0x1F5),
   (0x1F9, 0x1F9), (0x1FB, 0x1FB), (0x1FD, 0x1FD), (0x1FF, 0x1FF), (0x201, 0x201), (0x203, 0x203),
   (0x205, 0x205), (0x207, 0x207), (0x209, 0x209), (0x20B, 0x20B), (0x20D, 0x20D), (0x20F, 0x20F),
   (0x211, 0x211), (0x213, 0x213), (0x215, 0x215), (0x217, 0x217), (0x219, 0x219), (0x21B, 0x21B),
   (0x21D, 0x21D), (0x21F, 0x21F), (0x221, 0x221), (0x223, 0x223), (0x225, 0x225), (0x227, 0x227),
   (0x229, 0x229), (0x22B, 0x22B), (0x22D, 0x22D), (0x22F, 0x22F), (0x231, 0x231), (0x233, 0x239),
   (0x23C, 0x23C), (0x23F, 0x240), (0x242, 0x242), (0x247, 0x247), (0x249, 0x249), (0x24B, 0x24B),
   (0x24D, 0x24D), (0x24F, 0x2AF), (0x2B9, 0x2D7), (0x2DE, 0x2DF), (0x2E5, 0x33F), (0x342, 0x342),
   (0x346, 0x34E), (0x350, 0x36F), (0x371, 0x371), (0x373, 0x373), (0x375, 0x375), (0x377, 0x379),
   (0x37B, 0x37D), (0x380, 0x383), (0x38B, 0x38B), (0x38D, 0x38D), (0x390, 0x390), (0x3A2, 0x3A2),
   (0x3AC, 0x3C1), (0x3C3, 0x3CE), (0x3D7, 0x3D7), (0x3D9, 0x3D9), (0x3DB, 0x3DB), (0x3DD, 0x3DD),
   (0x3DF, 0x3DF), (0x3E1, 0x3E1), (0x3E3, 0x3E3), (0x3E5, 0x3E5), (0x3E7, 0x3E7), (0x3E9, 0x3E9),
   (0x3EB, 0x3EB), (0x3ED, 0x3ED), (0x3EF, 0x3EF), (0x3F3, 0x3F3), (0x3F6, 0x3F6), (0x3F8, 0x3F8),
   (0x3FB, 0x3FC), (0x430, 0x45F), (0x461, 0x461), (0x463, 0x463), (0x465, 0x465), (0x467, 0x467),
   (0x469, 0x469), (0x46B, 0x46B), (0x46D, 0x46D), (0x46F, 0x46F), (0x471, 0x471), (0x473, 0x473),
   (0x475, 0x475), (0x477, 0x477), (0x479, 0x479), (0x47B, 0x47B), (0x47D, 0x47D), (0x47F, 0x47F),
   (0x481, 0x489), (0x48B, 0x48B), (0x48D, 0x48D), (0x48F, 0x48F), (0x491, 0x491), (0x493, 0x493),
   (0x495, 0x495), (0x497, 0x497), (0x499, 0x499), (0x49B, 0x49B), (0x49D, 0x49D), (0x49F, 0x49F),
   (0x4A1, 0x4A1), (0x4A3, 0x4A3), (0x4A5, 0x4A5), (0x4A7, 0x4A7), (0x4A9, 0x4A9), (0x4AB, 0x4AB),
   (0x4AD, 0x4AD), (0x4AF, 0x4AF), (0x4B1, 0x4B1), (0x4B3, 0x4B3), (0x4B5, 0x4B5), (0x4B7, 0x4B7),
   (0x4B9, 0x4B9), (0x4BB, 0x4BB), (0x4BD, 0x4BD), (0x4BF, 0x4BF), (0x4C2, 0x4C2), (0x4C4, 0x4C4),
   (0x4C6, 0x4C6), (0x4C8, 0x4C8), (0x4CA, 0x4CA), (0x4CC, 0x4CC), (0x4CE, 0x4CF), (0x4D1, 0x4D1),
   (0x4D3, 0x4D3), (0x4D5, 0x4D5), (0x4D7, 0x4D7), (0x4D9, 0x4D9), (0x4DB, 0x4DB), (0x4DD, 0x4DD),
   (0x4DF, 0x4DF), (0x4E1, 0x4E1), (0x4E3, 0x4E3), (0x4E5, 0x4E5), (0x4E7, 0x4E7), (0x4E9, 0x4E9),
   (0x4EB, 0x4EB), (0x4ED, 0x4ED), (0x4EF, 0x4EF), (0x4F1, 0x4F1), (0x4F3, 0x4F3), (0x4F5, 0x4F5),
   (0x4F7, 0x4F7), (0x4F9, 0x4F9), (0x4FB, 0x4FB), (0x4FD, 0x4FD), (0x4FF, 0x4FF), (0x501, 0x501),
   (0x503, 0x503), (0x505, 0x505), (0x507, 0x507), (0x509, 0x509), (0x50B, 0x50B), (0x50D, 0x50D),
   (0x50F, 0x50F), (0x511, 0x511), (0x513, 0x513), (0x515, 0x515), (0x517, 0x517), (0x519, 0x519),
   (0x51B, 0x51B), (0x51D, 0x51D), (0x51F, 0x51F), (0x521, 0x521), (0x523, 0x523), (0x525, 0x525),
   (0x527, 0x527), (0x529, 0x529), (0x52B, 0x52B), (0x52D, 0x52D), (0x52F, 0x530), (0x557, 0x586),
   (0x588, 0x674), (0x679, 0x6DC), (0x6DE, 0x70E), (0x710, 0x957), (0x960, 0x9DB), (0x9DE, 0x9DE),
   (0x9E0, 0xA32), (0xA34, 0xA35), (0xA37, 0xA58), (0xA5C, 0xA5D), (0xA5F, 0xB5B), (0xB5E, 0xE32),
   (0xE34, 0xEB2), (0xEB4, 0xEDB), (0xEDE, 0xF0B), (0xF0D, 0xF42), (0xF44, 0xF4C), (0xF4E, 0xF51),
   (0xF53, 0xF56), (0xF58, 0xF5B), (0xF5D, 0xF68), (0xF6A, 0xF72), (0xF74, 0xF74), (0xF7A, 0xF80),
   (0xF82, 0xF92), (0xF94, 0xF9C), (0xF9E, 0xFA1), (0xFA3, 0xFA6), (0xFA8, 0xFAB), (0xFAD, 0xFB8),
   (0xFBA, 0x109F), (0x10C6, 0x10C6), (0x10C8, 0x10CC), (0x10CE, 0x139F), (0x13F6, 0x167F),
   (0x1681, 0x1805), (0x1807, 0x180A), (0x180F, 0x1C8F), (0x1CBB, 0x1CBC), (0x1CC0, 0x1DFF),
   (0x1E01, 0x1E01), (0x1E03, 0x1E03), (0x1E05, 0x1E05), (0x1E07, 0x1E07), (0x1E09, 0x1E09),
   (0x1E0B, 0x1E0B), (0x1E0D, 0x1E0D), (0x1E0F, 0x1E0F), (0x1E11, 0x1E11), (0x1E13, 0x1E13),
   (0x1E15, 0x1E15), (0x1E17, 0x1E17), (0x1E19, 0x1E19), (0x1E1B, 0x1E1B), (0x1E1D, 0x1E1D),
   (0x1E1F, 0x1E1F), (0x1E21, 0x1E21), (0x1E23, 0x1E23), (0x1E25, 0x1E25), (0x1E27, 0x1E27),
   (0x1E29, 0x1E29), (0x1E2B, 0x1E2B), (0x1E2D, 0x1E2D), (0x1E2F, 0x1E2F), (0x1E31, 0x1E31),
   (0x1E33, 0x1E33), (0x1E35, 0x1E35), (0x1E37, 0x1E37), (0x1E39, 0x1E39), (0x1E3B, 0x1E3B),
   (0x1E3D, 0x1E3D), (0x1E3F, 0x1E3F), (0x1E41, 0x1E41), (0x1E43, 0x1E43), (0x1E45, 0x1E45),
   (0x1E47, 0x1E47), (0x1E49, 0x1E49), (0x1E4B, 0x1E4B), (0x1E4D, 0x1E4D), (0x1E4F, 0x1E4F),
   (0x1E51, 0x1E51), (0x1E53, 0x1E53), (0x1E55, 0x1E55), (0x1E57, 0x1E57), (0x1E59, 0x1E59),
   (0x1E5B, 0x1E5B), (0x1E5D, 0x1E5D), (0x1E5F, 0x1E5F), (0x1E61, 0x1E61), (0x1E63, 0x1E63),
   (0x1E65, 0x1E65), (0x1E67, 0x1E67), (0x1E69, 0x1E69), (0x1E6B, 0x1E6B), (0x1E6D, 0x1E6D),
   (0x1E6F, 0x1E6F), (0x1E71, 0x1E71), (0x1E73, 0x1E73), (0x1E75, 0x1E75), (0x1E77, 0x1E77),
   (0x1E79, 0x1E79), (0x1E7B, 0x1E7B), (0x1E7D, 0x1E7D), (0x1E7F, 0x1E7F), (0x1E81, 0x1E81),
   (0x1E83, 0x1E83), (0x1E85, 0x1E85), (0x1E87, 0x1E87), (0x1E89, 0x1E89), (0x1E8B, 0x1E8B),
   (0x1E8D, 0x1E8D), (0x1E8F, 0x1E8F), (0x1E91, 0x1E91), (0x1E93, 0x1E93), (0x1E95, 0x1E99),
   (0x1E9C, 0x1E9D), (0x1E9F, 0x1E9F), (0x1EA1, 0x1EA1), (0x1EA3, 0x1EA3), (0x1EA5, 0x1EA5),
   (0x1EA7, 0x1EA7), (0x1EA9, 0x1EA9), (0x1EAB, 0x1EAB), (0x1EAD, 0x1EAD), (0x1EAF, 0x1EAF),
   (0x1EB1, 0x1EB1), (0x1EB3, 0x1EB3), (0x1EB5, 0x1EB5), (0x1EB7, 0x1EB7), (0x1EB9, 0x1EB9),
   (0x1EBB, 0x1EBB), (0x1EBD, 0x1EBD), (0x1EBF, 0x1EBF), (0x1EC1, 0x1EC1), (0x1EC3, 0x1EC3),
   (0x1EC5, 0x1EC5), (0x1EC7, 0x1EC7), (0x1EC9, 0x1EC9), (0x1ECB, 0x1ECB), (0x1ECD, 0x1ECD),
   (0x1ECF, 0x1ECF), (0x1ED1, 0x1ED1), (0x1ED3, 0x1ED3), (0x1ED5, 0x1ED5), (0x1ED7, 0x1ED7),
   (0x1ED9, 0x1ED9), (0x1EDB, 0x1EDB), (0x1EDD, 0x1EDD), (0x1EDF, 0x1EDF), (0x1EE1, 0x1EE1),
   (0x1EE3, 0x1EE3), (0x1EE5, 0x1EE5), (0x1EE7, 0x1EE7), (0x1EE9, 0x1EE9), (0x1EEB, 0x1EEB),
   (0x1EED, 0x1EED), (0x1EEF, 0x1EEF), (0x1EF1, 0x1EF1), (0x1EF3, 0x1EF3), (0x1EF5, 0x1EF5),
   (0x1EF7, 0x1EF7), (0x1EF9, 0x1EF9), (0x1EFB, 0x1EFB), (0x1EFD, 0x1EFD), (0x1EFF, 0x1F07),
   (0x1F10, 0x1F17), (0x1F1E, 0x1F27), (0x1F30, 0x1F37), (0x1F40, 0x1F47), (0x1F4E, 0x1F58),
   (0x1F5A, 0x1F5A), (0x1F5C, 0x1F5C), (0x1F5E, 0x1F5E), (0x1F60, 0x1F67), (0x1F70, 0x1F70),
   (0x1F72, 0x1F72), (0x1F74, 0x1F74), (0x1F76, 0x1F76), (0x1F78, 0x1F78), (0x1F7A, 0x1F7A),
   (0x1F7C, 0x1F7C), (0x1F7E, 0x1F7F), (0x1FB0, 0x1FB1), (0x1FB5, 0x1FB6), (0x1FC5, 0x1FC6),
   (0x1FD0, 0x1FD2), (0x1FD4, 0x1FD7), (0x1FDC, 0x1FDC), (0x1FE0, 0x1FE2), (0x1FE4, 0x1FE7),
   (0x1FF0, 0x1FF1), (0x1FF5, 0x1FF6), (0x1FFF, 0x1FFF), (0x2010, 0x2010), (0x2012, 0x2016),
   (0x2018, 0x2023), (0x2027, 0x2027), (0x2030, 0x2032), (0x2035, 0x2035), (0x2038, 0x203B),
   (0x203D, 0x203D), (0x203F, 0x2046), (0x204A, 0x2056), (0x2058, 0x205E), (0x2064, 0x2069),
   (0x2072, 0x2073), (0x208F, 0x20A7), (0x20A9, 0x20FF), (0x2104, 0x2104), (0x2108, 0x2108),
   (0x2114, 0x2114), (0x2117, 0x2118), (0x211E, 0x211F), (0x2123, 0x2123), (0x2125, 0x2125),
   (0x2127, 0x2127), (0x2129, 0x2129), (0x212E, 0x212E), (0x213A, 0x213C), (0x2141, 0x2144),
   (0x214A, 0x2152), (0x2180, 0x2182), (0x2184, 0x222B), (0x222E, 0x222E), (0x2231, 0x2328),
   (0x232B, 0x245F), (0x24EB, 0x2A0B), (0x2A0D, 0x2A73), (0x2A77, 0x2ADB), (0x2ADD, 0x2BFF),
   (0x2C30, 0x2C5F), (0x2C61, 0x2C61), (0x2C65, 0x2C66), (0x2C68, 0x2C68), (0x2C6A, 0x2C6A),
   (0x2C6C, 0x2C6C), (0x2C71, 0x2C71), (0x2C73, 0x2C74), (0x2C76, 0x2C7D), (0x2C81, 0x2C81),
   (0x2C83, 0x2C83), (0x2C85, 0x2C85), (0x2C87, 0x2C87), (0x2C89, 0x2C89), (0x2C8B, 0x2C8B),
   (0x2C8D, 0x2C8D), (0x2C8F, 0x2C8F), (0x2C91, 0x2C91), (0x2C93, 0x2C93), (0x2C95, 0x2C95),
   (0x2C97, 0x2C97), (0x2C99, 0x2C99), (0x2C9B, 0x2C9B), (0x2C9D, 0x2C9D), (0x2C9F, 0x2C9F),
   (0x2CA1, 0x2CA1), (0x2CA3, 0x2CA3), (0x2CA5, 0x2CA5), (0x2CA7, 0x2CA7), (0x2CA9, 0x2CA9),
   (0x2CAB, 0x2CAB), (0x2CAD, 0x2CAD), (0x2CAF, 0x2CAF), (0x2CB1, 0x2CB1), (0x2CB3, 0x2CB3),
   (0x2CB5, 0x2CB5), (0x2CB7, 0x2CB7), (0x2CB9, 0x2CB9), (0x2CBB, 0x2CBB), (0x2CBD, 0x2CBD),
   (0x2CBF, 0x2CBF), (0x2CC1, 0x2CC1), (0x2CC3, 0x2CC3), (0x2CC5, 0x2CC5), (0x2CC7, 0x2CC7),
   (0x2CC9, 0x2CC9), (0x2CCB, 0x2CCB), (0x2CCD, 0x2CCD), (0x2CCF, 0x2CCF), (0x2CD1, 0x2CD1),
   (0x2CD3, 0x2CD3), (0x2CD5, 0x2CD5), (0x2CD7, 0x2CD7), (0x2CD9, 0x2CD9), (0x2CDB, 0x2CDB),
   (0x2CDD, 0x2CDD), (0x2CDF, 0x2CDF), (0x2CE1, 0x2CE1), (0x2CE3, 0x2CEA), (0x2CEC, 0x2CEC),
   (0x2CEE, 0x2CF1), (0x2CF3, 0x2E9E), (0x2EA0, 0x2EF2), (0x2EF4, 0x2EFF), (0x2FD6, 0x2FEF),
   (0x2FFC, 0x2FFF), (0x3001, 0x3035), (0x3037, 0x3037), (0x303B, 0x309A), (0x309D, 0x309E),
   (0x30A0, 0x30FE), (0x3100, 0x3130), (0x318F, 0x3191), (0x31A0, 0x31FF), (0x321D, 0x321F),
   (0x3244, 0x3250), (0x327C, 0x327F), (0x32CC, 0x32CF), (0x32FF, 0x32FF), (0x3377, 0x337A),
   (0x33DE, 0x33DF), (0x33FF, 0xA63F), (0xA641, 0xA641), (0xA643, 0xA643), (0xA645, 0xA645),
   (0xA647, 0xA647), (0xA649, 0xA649), (0xA64B, 0xA64B), (0xA64D, 0xA64D), (0xA64F, 0xA64F),
   (0xA651, 0xA651), (0xA653, 0xA653), (0xA655, 0xA655), (0xA657, 0xA657), (0xA659, 0xA659),
   (0xA65B, 0xA65B), (0xA65D, 0xA65D), (0xA65F, 0xA65F), (0xA661, 0xA661), (0xA663, 0xA663),
   (0xA665, 0xA665), (0xA667, 0xA667), (0xA669, 0xA669), (0xA66B, 0xA66B), (0xA66D, 0xA67F),
   (0xA681, 0xA681), (0xA683, 0xA683), (0xA685, 0xA685), (0xA687, 0xA687), (0xA689, 0xA689),
   (0xA68B, 0xA68B), (0xA68D, 0xA68D), (0xA68F, 0xA68F), (0xA691, 0xA691), (0xA693, 0xA693),
   (0xA695, 0xA695), (0xA697, 0xA697), (0xA699, 0xA699), (0xA69B, 0xA721), (0xA723, 0xA723),
   (0xA725, 0xA725), (0xA727, 0xA727), (0xA729, 0xA729), (0xA72B, 0xA72B), (0xA72D, 0xA72D),
   (0xA72F, 0xA731), (0xA733, 0xA733), (0xA735, 0xA735), (0xA737, 0xA737), (0xA739, 0xA739),
   (0xA73B, 0xA73B), (0xA73D, 0xA73D), (0xA73F, 0xA73F), (0xA741, 0xA741), (0xA743, 0xA743),
   (0xA745, 0xA745), (0xA747, 0xA747), (0xA749, 0xA749), (0xA74B, 0xA74B), (0xA74D, 0xA74D),
   (0xA74F, 0xA74F), (0xA751, 0xA751), (0xA753, 0xA753), (0xA755, 0xA755), (0xA757, 0xA757),
   (0xA759, 0xA759), (0xA75B, 0xA75B), (0xA75D, 0xA75D), (0xA75F, 0xA75F), (0xA761, 0xA761),
   (0xA763, 0xA763), (0xA765, 0xA765), (0xA767, 0xA767), (0xA769, 0xA769), (0xA76B, 0xA76B),
   (0xA76D, 0xA76D), (0xA76F, 0xA778), (0xA77A, 0xA77A), (0xA77C, 0xA77C), (0xA77F, 0xA77F),
   (0xA781, 0xA781), (0xA783, 0xA783), (0xA785, 0xA785), (0xA787, 0xA78A), (0xA78C, 0xA78C),
   (0xA78E, 0xA78F), (0xA791, 0xA791), (0xA793, 0xA795), (0xA797, 0xA797), (0xA799, 0xA799),
   (0xA79B, 0xA79B), (0xA79D, 0xA79D), (0xA79F, 0xA79F), (0xA7A1, 0xA7A1), (0xA7A3, 0xA7A3),
   (0xA7A5, 0xA7A5), (0xA7A7, 0xA7A7), (0xA7A9, 0xA7A9), (0xA7AF, 0xA7AF), (0xA7B5, 0xA7B5),
   (0xA7B7, 0xA7B7), (0xA7B9, 0xA7B9), (0xA7BB, 0xA7BB), (0xA7BD, 0xA7BD), (0xA7BF, 0xA7BF),
   (0xA7C1, 0xA7C1), (0xA7C3, 0xA7C3), (0xA7C8, 0xA7C8), (0xA7CA, 0xA7CF), (0xA7D1, 0xA7D5),
   (0xA7D7, 0xA7D7), (0xA7D9, 0xA7F4), (0xA7F6, 0xD7FF), (0xFA0E, 0xFA0F), (0xFA11, 0xFA11),
   (0xFA13, 0xFA14), (0xFA1F, 0xFA1F), (0xFA21, 0xFA21), (0xFA23, 0xFA24), (0xFA27, 0xFA29),
   (0xFA2E, 0xFA2F), (0xFA6B, 0xFAFF), (0xFB07, 0xFB12), (0xFB18, 0xFB1C), (0xFB1E, 0xFB1E),
   (0xFB37, 0xFB37), (0xFB3D, 0xFB3D), (0xFB3F, 0xFB3F), (0xFB42, 0xFB42), (0xFB45, 0xFB45),
   (0xFBB2, 0xFBD2), (0xFD3E, 0xFD4F), (0xFD90, 0xFD91), (0xFDC8, 0xFDCF), (0xFDFD, 0xFDFF),
   (0xFE10, 0xFE2F), (0xFE45, 0xFE48), (0xFE53, 0xFE53), (0xFE67, 0xFE67), (0xFE6C, 0xFE6F),
   (0xFE73, 0xFE73), (0xFE75, 0xFE75), (0xFEFD, 0xFEFE), (0xFF00, 0xFF00), (0xFFBF, 0xFFC1),
   (0xFFC8, 0xFFC9), (0xFFD0, 0xFFD1), (0xFFD8, 0xFFD9), (0xFFDD, 0xFFDF), (0xFFE7, 0xFFE7),
   (0xFFEF, 0xFFF8), (0x10000, 0x103FF), (0x10428, 0x104AF), (0x104D4, 0x1056F),
   (0x1057B, 0x1057B), (0x1058B, 0x1058B), (0x10593, 0x10593), (0x10596, 0x10C7F),
   (0x10CB3, 0x1189F), (0x118C0, 0x16E3F), (0x16E60, 0x1D15D), (0x1D165, 0x1D172),
   (0x1D17B, 0x1D1BA), (0x1D1C1, 0x1D3FF), (0x1D455, 0x1D455), (0x1D49D, 0x1D49D),
   (0x1D4A0, 0x1D4A1), (0x1D4A3, 0x1D4A4), (0x1D4A7, 0x1D4A8), (0x1D4AD, 0x1D4AD),
   (0x1D4BA, 0x1D4BA), (0x1D4BC, 0x1D4BC), (0x1D4C1, 0x1D4C1), (0x1D4C4, 0x1D4C4),
   (0x1D506, 0x1D506), (0x1D50B, 0x1D50C), (0x1D515, 0x1D515), (0x1D51D, 0x1D51D),
   (0x1D53A, 0x1D53A), (0x1D53F, 0x1D53F), (0x1D545, 0x1D545), (0x1D547, 0x1D549),
   (0x1D551, 0x1D551), (0x1D6A4, 0x1D6A7), (0x1D7CA, 0x1D7CD), (0x1D800, 0x1E8FF),
   (0x1E922, 0x1FFFD), (0x20000, 0x2F7FF), (0x2FA1E, 0x2FFFD), (0x30000, 0x3FFFD),
   (0x40000, 0x4FFFD), (0x50000, 0x5FFFD), (0x60000, 0x6FFFD), (0x70000, 0x7FFFD),
   (0x80000, 0x8FFFD), (0x90000, 0x9FFFD), (0xA0000, 0xAFFFD), (0xB0000, 0xBFFFD),
   (0xC0000, 0xCFFFD), (0xD0000, 0xDFFFD), (0xE0000, 0xE0000), (0xE0002, 0xE001F),
   (0xE0080, 0xEFFFD)]

/-- Letters that are written from right to left. Characters that no prepared name has may lie in the
ranges. -/
def rightToLeftRanges : List (Nat × Nat) :=
  [(0x5BE, 0x5BE), (0x5C0, 0x5C0), (0x5C3, 0x5C3), (0x5D0, 0x5EA), (0x5F0, 0x5F4), (0x61B, 0x61B),
   (0x61F, 0x61F), (0x621, 0x63A), (0x640, 0x64A), (0x66D, 0x66F), (0x671, 0x6D5), (0x6E5, 0x6E6),
   (0x6FA, 0x6FE), (0x700, 0x70D), (0x710, 0x710), (0x712, 0x72C), (0x780, 0x7A5), (0x7B1, 0x7B1),
   (0xFE73, 0xFE73)]

/-- Letters that are written from left to right. Characters that no prepared name has may lie in the
ranges. -/
def leftToRightRanges : List (Nat × Nat) :=
  [(0x61, 0x7A), (0xE0, 0xF6), (0xF8, 0x21F), (0x223, 0x233), (0x250, 0x2AD), (0x2BB, 0x2C1),
   (0x2D0, 0x2D1), (0x2EE, 0x2EE), (0x390, 0x390), (0x3AC, 0x3F3), (0x430, 0x482), (0x48B, 0x4CE),
   (0x4D1, 0x4F5), (0x4F9, 0x4F9), (0x501, 0x50F), (0x559, 0x55F), (0x561, 0x586), (0x589, 0x589),
   (0x903, 0x903), (0x905, 0x939), (0x93D, 0x940), (0x949, 0x94C), (0x950, 0x950), (0x960, 0x961),
   (0x964, 0x970), (0x982, 0x983), (0x985, 0x98C), (0x98F, 0x990), (0x993, 0x9A8), (0x9AA, 0x9B0),
   (0x9B2, 0x9B2), (0x9B6, 0x9B9), (0x9BE, 0x9C0), (0x9C7, 0x9C8), (0x9CB, 0x9CC), (0x9D7, 0x9D7),
   (0x9E0, 0x9E1), (0x9E6, 0x9F1), (0x9F4, 0x9FA), (0xA05, 0xA0A), (0xA0F, 0xA10), (0xA13, 0xA28),
   (0xA2A, 0xA30), (0xA32, 0xA32), (0xA35, 0xA35), (0xA38, 0xA39), (0xA3E, 0xA40), (0xA5C, 0xA5C),
   (0xA66, 0xA6F), (0xA72, 0xA74), (0xA83, 0xA83), (0xA85, 0xA8B), (0xA8D, 0xA8D), (0xA8F, 0xA91),
   (0xA93, 0xAA8), (0xAAA, 0xAB0), (0xAB2, 0xAB3), (0xAB5, 0xAB9), (0xABD, 0xAC0), (0xAC9, 0xAC9),
   (0xACB, 0xACC), (0xAD0, 0xAD0), (0xAE0, 0xAE0), (0xAE6, 0xAEF), (0xB02, 0xB03), (0xB05, 0xB0C),
   (0xB0F, 0xB10), (0xB13, 0xB28), (0xB2A, 0xB30), (0xB32, 0xB33), (0xB36, 0xB39), (0xB3D, 0xB3E),
   (0xB40, 0xB40), (0xB47, 0xB48), (0xB4B, 0xB4C), (0xB57, 0xB57), (0xB5F, 0xB61), (0xB66, 0xB70),
   (0xB83, 0xB83), (0xB85, 0xB8A), (0xB8E, 0xB90), (0xB92, 0xB95), (0xB99, 0xB9A), (0xB9C, 0xB9C),
   (0xB9E, 0xB9F), (0xBA3, 0xBA4), (0xBA8, 0xBAA), (0xBAE, 0xBB5), (0xBB7, 0xBB9), (0xBBE, 0xBBF),
   (0xBC1, 0xBC2), (0xBC6, 0xBC8), (0xBCA, 0xBCC), (0xBD7, 0xBD7), (0xBE7, 0xBF2), (0xC01, 0xC03),
   (0xC05, 0xC0C), (0xC0E, 0xC10), (0xC12, 0xC28), (0xC2A, 0xC33), (0xC35, 0xC39), (0xC41, 0xC44),
   (0xC60, 0xC61), (0xC66, 0xC6F), (0xC82, 0xC83), (0xC85, 0xC8C), (0xC8E, 0xC90), (0xC92, 0xCA8),
   (0xCAA, 0xCB3), (0xCB5, 0xCB9), (0xCBE, 0xCBE), (0xCC0, 0xCC4), (0xCC7, 0xCC8), (0xCCA, 0xCCB),
   (0xCD5, 0xCD6), (0xCDE, 0xCDE), (0xCE0, 0xCE1), (0xCE6, 0xCEF), (0xD02, 0xD03), (0xD05, 0xD0C),
   (0xD0E, 0xD10), (0xD12, 0xD28), (0xD2A, 0xD39), (0xD3E, 0xD40), (0xD46, 0xD48), (0xD4A, 0xD4C),
   (0xD57, 0xD57), (0xD60, 0xD61), (0xD66, 0xD6F), (0xD82, 0xD83), (0xD85, 0xD96), (0xD9A, 0xDB1),
   (0xDB3, 0xDBB), (0xDBD, 0xDBD), (0xDC0, 0xDC6), (0xDCF, 0xDD1), (0xDD8, 0xDDF), (0xDF2, 0xDF4),
   (0xE01, 0xE30), (0xE32, 0xE32), (0xE40, 0xE46), (0xE4F, 0xE5B), (0xE81, 0xE82), (0xE84, 0xE84),
   (0xE87, 0xE88), (0xE8A, 0xE8A), (0xE8D, 0xE8D), (0xE94, 0xE97), (0xE99, 0xE9F), (0xEA1, 0xEA3),
   (0xEA5, 0xEA5), (0xEA7, 0xEA7), (0xEAA, 0xEAB), (0xEAD, 0xEB0), (0xEB2, 0xEB2), (0xEBD, 0xEBD),
   (0xEC0, 0xEC4), (0xEC6, 0xEC6), (0xED0, 0xED9), (0xF00, 0xF17), (0xF1A, 0xF34), (0xF36, 0xF36),
   (0xF38, 0xF38), (0xF3E, 0xF47), (0xF49, 0xF6A), (0xF7F, 0xF7F), (0xF85, 0xF85), (0xF88, 0xF8B),
   (0xFBE, 0xFC5), (0xFC7, 0xFCC), (0xFCF, 0xFCF), (0x1000, 0x1021), (0x1023, 0x1027),
   (0x1029, 0x102A), (0x102C, 0x102C), (0x1031, 0x1031), (0x1038, 0x1038), (0x1040, 0x1057),
   (0x10D0, 0x10F8), (0x10FB, 0x10FB), (0x1100, 0x1159), (0x115F, 0x11A2), (0x11A8, 0x11F9),
   (0x1200, 0x1206), (0x1208, 0x1246), (0x1248, 0x1248), (0x124A, 0x124D), (0x1250, 0x1256),
   (0x1258, 0x1258), (0x125A, 0x125D), (0x1260, 0x1286), (0x1288, 0x1288), (0x128A, 0x128D),
   (0x1290, 0x12AE), (0x12B0, 0x12B0), (0x12B2, 0x12B5), (0x12B8, 0x12BE), (0x12C0, 0x12C0),
   (0x12C2, 0x12C5), (0x12C8, 0x12CE), (0x12D0, 0x12D6), (0x12D8, 0x12EE), (0x12F0, 0x130E),
   (0x1310, 0x1310), (0x1312, 0x1315), (0x1318, 0x131E), (0x1320, 0x1346), (0x1348, 0x135A),
   (0x1361, 0x137C), (0x1401, 0x1676), (0x1681, 0x169A), (0x16A0, 0x16F0), (0x1700, 0x170C),
   (0x170E, 0x1711), (0x1720, 0x1731), (0x1735, 0x1736), (0x1740, 0x1751), (0x1760, 0x176C),
   (0x176E, 0x1770), (0x1780, 0x17B6), (0x17BE, 0x17C5), (0x17C7, 0x17C8), (0x17D4, 0x17DA),
   (0x17DC, 0x17DC), (0x17E0, 0x17E9), (0x1810, 0x1819), (0x1820, 0x1877), (0x1880, 0x18A8),
   (0x1E01, 0x1E99), (0x1EA1, 0x1EF9), (0x1F00, 0x1F15), (0x1F20, 0x1F45), (0x1F50, 0x1F57),
   (0x1F60, 0x1F7C), (0x1FB0, 0x1FB1), (0x1FB6, 0x1FB6), (0x1FC6, 0x1FD2), (0x1FD6, 0x1FD7),
   (0x1FE0, 0x1FE7), (0x1FF6, 0x1FF6), (0x2180, 0x2182), (0x2336, 0x237A), (0x2395, 0x2395),
   (0x3005, 0x3007), (0x3021, 0x3029), (0x3031, 0x3035), (0x303B, 0x303C), (0x3041, 0x3096),
   (0x309D, 0x309E), (0x30A1, 0x30FA), (0x30FC, 0x30FE), (0x3105, 0x312C), (0x3190, 0x31B7),
   (0x31F0, 0x31FF), (0x327F, 0x327F), (0x3400, 0x4DB5), (0x4E00, 0x9FA5), (0xA000, 0xA48C),
   (0xAC00, 0xD7A3), (0xFA0E, 0xFA29), (0x10300, 0x1031E), (0x10320, 0x10323), (0x10330, 0x1034A),
   (0x10428, 0x1044D), (0x1D000, 0x1D0F5), (0x1D100, 0x1D126), (0x1D12A, 0x1D166),
   (0x1D16A, 0x1D172), (0x1D183, 0x1D184), (0x1D18C, 0x1D1A9), (0x1D1AE, 0x1D1DD),
   (0x20000, 0x2A6D6)]

/-- Whether preparing a character by itself leaves it as it is. -/
def isPreparedCharacter (code : Nat) : Bool :=
  if code < 0x80 then !(0x41 ≤ code && code ≤ 0x5A) else inRanges preparedRanges code

def isRightToLeft (code : Nat) : Bool := inRanges rightToLeftRanges code

def isLeftToRight (code : Nat) : Bool := inRanges leftToRightRanges code

/-- A name with letters from right to left begins and ends with one and has none from left to
right. -/
def hasOneDirection (name : List Nat) : Bool :=
  !name.any isRightToLeft
    || (!name.any isLeftToRight && name.head?.any isRightToLeft && name.getLast?.any isRightToLeft)

/-- Whether a name is in its prepared form. -/
def isPrepared (name : List Nat) : Bool :=
  name.all isPreparedCharacter && composed name == name && hasOneDirection name

end RecordCheck.Text.Encoding
