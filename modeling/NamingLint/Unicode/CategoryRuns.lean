/-!
# Runs of the general category

The general category of every code point, after Unicode 17 and with the small letters that
Unicode 18 adds to the block Latin Extended-G, as the list of runs of equal category in
ascending order. Each entry is written in hexadecimal: its last two digits are the code of the
category (the position of its constructor in `Category`), the digits before them the first code
point of the run. Codes 1E and 1F stand for runs in which upper-case and lower-case letters
alternate: under 1E the even code points are upper case, under 1F the odd ones.
-/

namespace NamingLint.Unicode

set_option maxRecDepth 20000 in
/-- The runs of equal general category, ascending by their first code point. -/
def categoryRuns : Array Nat := #[
  0x019, 0x2016, 0x2111, 0x2413, 0x2511, 0x280D, 0x290E, 0x2A11, 0x2B12, 0x2C11, 0x2D0C, 0x2E11,
  0x3008, 0x3A11, 0x3C12, 0x3F11, 0x4100, 0x5B0D, 0x5C11, 0x5D0E, 0x5E14, 0x5F0B, 0x6014, 0x6101,
  0x7B0D, 0x7C12, 0x7D0E, 0x7E12, 0x7F19, 0xA016, 0xA111, 0xA213, 0xA615, 0xA711, 0xA814, 0xA915,
  0xAA04, 0xAB0F, 0xAC12, 0xAD1A, 0xAE15, 0xAF14, 0xB015, 0xB112, 0xB20A, 0xB414, 0xB501, 0xB611,
  0xB814, 0xB90A, 0xBA04, 0xBB10, 0xBC0A, 0xBF11, 0xC000, 0xD712, 0xD800, 0xDF01, 0xF712, 0xF801,
  0xFF1E, 0x13701, 0x1381F, 0x14801, 0x1491E, 0x17800, 0x1791F, 0x17E01, 0x18100, 0x1821E,
  0x18600, 0x18801, 0x18900, 0x18C01, 0x18E00, 0x19201, 0x19300, 0x19501, 0x19600, 0x19901,
  0x19C00, 0x19E01, 0x19F00, 0x1A01E, 0x1A600, 0x1A71F, 0x1AA01, 0x1AB1E, 0x1AE00, 0x1B001,
  0x1B100, 0x1B31F, 0x1B700, 0x1B901, 0x1BB04, 0x1BC00, 0x1BD01, 0x1C004, 0x1C400, 0x1C502,
  0x1C601, 0x1C700, 0x1C802, 0x1C901, 0x1CA00, 0x1CB02, 0x1CC1F, 0x1DC01, 0x1DD1E, 0x1EF01,
  0x1F100, 0x1F202, 0x1F31E, 0x1F600, 0x1F81E, 0x23301, 0x23A00, 0x23C01, 0x23D00, 0x23F01,
  0x2401F, 0x24300, 0x2461E, 0x24F01, 0x29404, 0x29601, 0x2B003, 0x2C214, 0x2C603, 0x2D214,
  0x2E003, 0x2E514, 0x2EC03, 0x2ED14, 0x2EE03, 0x2EF14, 0x30005, 0x3701E, 0x37403, 0x37514,
  0x37600, 0x37701, 0x3781D, 0x37A03, 0x37B01, 0x37E11, 0x37F00, 0x3801D, 0x38414, 0x38600,
  0x38711, 0x38800, 0x38B1D, 0x38C00, 0x38D1D, 0x38E00, 0x39001, 0x39100, 0x3A21D, 0x3A300,
  0x3AC01, 0x3CF00, 0x3D001, 0x3D200, 0x3D501, 0x3D71E, 0x3EF01, 0x3F400, 0x3F501, 0x3F612,
  0x3F700, 0x3F801, 0x3F900, 0x3FB01, 0x3FD00, 0x43001, 0x45F1E, 0x48215, 0x48305, 0x48807,
  0x48A1E, 0x4C000, 0x4C11F, 0x4CE01, 0x4CF1E, 0x5301D, 0x53100, 0x5571D, 0x55903, 0x55A11,
  0x56001, 0x58911, 0x58A0C, 0x58B1D, 0x58D15, 0x58F13, 0x5901D, 0x59105, 0x5BE0C, 0x5BF05,
  0x5C011, 0x5C105, 0x5C311, 0x5C405, 0x5C611, 0x5C705, 0x5C81D, 0x5D004, 0x5EB1D, 0x5EF04,
  0x5F311, 0x5F51D, 0x6001A, 0x60612, 0x60911, 0x60B13, 0x60C11, 0x60E15, 0x61005, 0x61B11,
  0x61C1A, 0x61D11, 0x62004, 0x64003, 0x64104, 0x64B05, 0x66008, 0x66A11, 0x66E04, 0x67005,
  0x67104, 0x6D411, 0x6D504, 0x6D605, 0x6DD1A, 0x6DE15, 0x6DF05, 0x6E503, 0x6E705, 0x6E915,
  0x6EA05, 0x6EE04, 0x6F008, 0x6FA04, 0x6FD15, 0x6FF04, 0x70011, 0x70E1D, 0x70F1A, 0x71004,
  0x71105, 0x71204, 0x73005, 0x74B1D, 0x74D04, 0x7A605, 0x7B104, 0x7B21D, 0x7C008, 0x7CA04,
  0x7EB05, 0x7F403, 0x7F615, 0x7F711, 0x7FA03, 0x7FB1D, 0x7FD05, 0x7FE13, 0x80004, 0x81605,
  0x81A03, 0x81B05, 0x82403, 0x82505, 0x82803, 0x82905, 0x82E1D, 0x83011, 0x83F1D, 0x84004,
  0x85905, 0x85C1D, 0x85E11, 0x85F1D, 0x86004, 0x86B1D, 0x87004, 0x88814, 0x88904, 0x8901A,
  0x8921D, 0x89705, 0x8A004, 0x8C903, 0x8CA05, 0x8E21A, 0x8E305, 0x90306, 0x90404, 0x93A05,
  0x93B06, 0x93C05, 0x93D04, 0x93E06, 0x94105, 0x94906, 0x94D05, 0x94E06, 0x95004, 0x95105,
  0x95804, 0x96205, 0x96411, 0x96608, 0x97011, 0x97103, 0x97204, 0x98105, 0x98206, 0x9841D,
  0x98504, 0x98D1D, 0x98F04, 0x9911D, 0x99304, 0x9A91D, 0x9AA04, 0x9B11D, 0x9B204, 0x9B31D,
  0x9B604, 0x9BA1D, 0x9BC05, 0x9BD04, 0x9BE06, 0x9C105, 0x9C51D, 0x9C706, 0x9C91D, 0x9CB06,
  0x9CD05, 0x9CE04, 0x9CF1D, 0x9D706, 0x9D81D, 0x9DC04, 0x9DE1D, 0x9DF04, 0x9E205, 0x9E41D,
  0x9E608, 0x9F004, 0x9F213, 0x9F40A, 0x9FA15, 0x9FB13, 0x9FC04, 0x9FD11, 0x9FE05, 0x9FF1D,
  0xA0105, 0xA0306, 0xA041D, 0xA0504, 0xA0B1D, 0xA0F04, 0xA111D, 0xA1304, 0xA291D, 0xA2A04,
  0xA311D, 0xA3204, 0xA341D, 0xA3504, 0xA371D, 0xA3804, 0xA3A1D, 0xA3C05, 0xA3D1D, 0xA3E06,
  0xA4105, 0xA431D, 0xA4705, 0xA491D, 0xA4B05, 0xA4E1D, 0xA5105, 0xA521D, 0xA5904, 0xA5D1D,
  0xA5E04, 0xA5F1D, 0xA6608, 0xA7005, 0xA7204, 0xA7505, 0xA7611, 0xA771D, 0xA8105, 0xA8306,
  0xA841D, 0xA8504, 0xA8E1D, 0xA8F04, 0xA921D, 0xA9304, 0xAA91D, 0xAAA04, 0xAB11D, 0xAB204,
  0xAB41D, 0xAB504, 0xABA1D, 0xABC05, 0xABD04, 0xABE06, 0xAC105, 0xAC61D, 0xAC705, 0xAC906,
  0xACA1D, 0xACB06, 0xACD05, 0xACE1D, 0xAD004, 0xAD11D, 0xAE004, 0xAE205, 0xAE41D, 0xAE608,
  0xAF011, 0xAF113, 0xAF21D, 0xAF904, 0xAFA05, 0xB001D, 0xB0105, 0xB0206, 0xB041D, 0xB0504,
  0xB0D1D, 0xB0F04, 0xB111D, 0xB1304, 0xB291D, 0xB2A04, 0xB311D, 0xB3204, 0xB341D, 0xB3504,
  0xB3A1D, 0xB3C05, 0xB3D04, 0xB3E06, 0xB3F05, 0xB4006, 0xB4105, 0xB451D, 0xB4706, 0xB491D,
  0xB4B06, 0xB4D05, 0xB4E1D, 0xB5505, 0xB5706, 0xB581D, 0xB5C04, 0xB5E1D, 0xB5F04, 0xB6205,
  0xB641D, 0xB6608, 0xB7015, 0xB7104, 0xB720A, 0xB781D, 0xB8205, 0xB8304, 0xB841D, 0xB8504,
  0xB8B1D, 0xB8E04, 0xB911D, 0xB9204, 0xB961D, 0xB9904, 0xB9B1D, 0xB9C04, 0xB9D1D, 0xB9E04,
  0xBA01D, 0xBA304, 0xBA51D, 0xBA804, 0xBAB1D, 0xBAE04, 0xBBA1D, 0xBBE06, 0xBC005, 0xBC106,
  0xBC31D, 0xBC606, 0xBC91D, 0xBCA06, 0xBCD05, 0xBCE1D, 0xBD004, 0xBD11D, 0xBD706, 0xBD81D,
  0xBE608, 0xBF00A, 0xBF315, 0xBF913, 0xBFA15, 0xBFB1D, 0xC0005, 0xC0106, 0xC0405, 0xC0504,
  0xC0D1D, 0xC0E04, 0xC111D, 0xC1204, 0xC291D, 0xC2A04, 0xC3A1D, 0xC3C05, 0xC3D04, 0xC3E05,
  0xC4106, 0xC451D, 0xC4605, 0xC491D, 0xC4A05, 0xC4E1D, 0xC5505, 0xC571D, 0xC5804, 0xC5B1D,
  0xC5C04, 0xC5E1D, 0xC6004, 0xC6205, 0xC641D, 0xC6608, 0xC701D, 0xC7711, 0xC780A, 0xC7F15,
  0xC8004, 0xC8105, 0xC8206, 0xC8411, 0xC8504, 0xC8D1D, 0xC8E04, 0xC911D, 0xC9204, 0xCA91D,
  0xCAA04, 0xCB41D, 0xCB504, 0xCBA1D, 0xCBC05, 0xCBD04, 0xCBE06, 0xCBF05, 0xCC006, 0xCC51D,
  0xCC605, 0xCC706, 0xCC91D, 0xCCA06, 0xCCC05, 0xCCE1D, 0xCD506, 0xCD71D, 0xCDC04, 0xCDF1D,
  0xCE004, 0xCE205, 0xCE41D, 0xCE608, 0xCF01D, 0xCF104, 0xCF306, 0xCF41D, 0xD0005, 0xD0206,
  0xD0404, 0xD0D1D, 0xD0E04, 0xD111D, 0xD1204, 0xD3B05, 0xD3D04, 0xD3E06, 0xD4105, 0xD451D,
  0xD4606, 0xD491D, 0xD4A06, 0xD4D05, 0xD4E04, 0xD4F15, 0xD501D, 0xD5404, 0xD5706, 0xD580A,
  0xD5F04, 0xD6205, 0xD641D, 0xD6608, 0xD700A, 0xD7915, 0xD7A04, 0xD801D, 0xD8105, 0xD8206,
  0xD841D, 0xD8504, 0xD971D, 0xD9A04, 0xDB21D, 0xDB304, 0xDBC1D, 0xDBD04, 0xDBE1D, 0xDC004,
  0xDC71D, 0xDCA05, 0xDCB1D, 0xDCF06, 0xDD205, 0xDD51D, 0xDD605, 0xDD71D, 0xDD806, 0xDE01D,
  0xDE608, 0xDF01D, 0xDF206, 0xDF411, 0xDF51D, 0xE0104, 0xE3105, 0xE3204, 0xE3405, 0xE3B1D,
  0xE3F13, 0xE4004, 0xE4603, 0xE4705, 0xE4F11, 0xE5008, 0xE5A11, 0xE5C1D, 0xE8104, 0xE831D,
  0xE8404, 0xE851D, 0xE8604, 0xE8B1D, 0xE8C04, 0xEA41D, 0xEA504, 0xEA61D, 0xEA704, 0xEB105,
  0xEB204, 0xEB405, 0xEBD04, 0xEBE1D, 0xEC004, 0xEC51D, 0xEC603, 0xEC71D, 0xEC805, 0xECF1D,
  0xED008, 0xEDA1D, 0xEDC04, 0xEE01D, 0xF0004, 0xF0115, 0xF0411, 0xF1315, 0xF1411, 0xF1515,
  0xF1805, 0xF1A15, 0xF2008, 0xF2A0A, 0xF3415, 0xF3505, 0xF3615, 0xF3705, 0xF3815, 0xF3905,
  0xF3A0D, 0xF3B0E, 0xF3C0D, 0xF3D0E, 0xF3E06, 0xF4004, 0xF481D, 0xF4904, 0xF6D1D, 0xF7105,
  0xF7F06, 0xF8005, 0xF8511, 0xF8605, 0xF8804, 0xF8D05, 0xF981D, 0xF9905, 0xFBD1D, 0xFBE15,
  0xFC605, 0xFC715, 0xFCD1D, 0xFCE15, 0xFD011, 0xFD515, 0xFD911, 0xFDB1D, 0x100004, 0x102B06,
  0x102D05, 0x103106, 0x103205, 0x103806, 0x103905, 0x103B06, 0x103D05, 0x103F04, 0x104008,
  0x104A11, 0x105004, 0x105606, 0x105805, 0x105A04, 0x105E05, 0x106104, 0x106206, 0x106504,
  0x106706, 0x106E04, 0x107105, 0x107504, 0x108205, 0x108306, 0x108505, 0x108706, 0x108D05,
  0x108E04, 0x108F06, 0x109008, 0x109A06, 0x109D05, 0x109E15, 0x10A000, 0x10C61D, 0x10C700,
  0x10C81D, 0x10CD00, 0x10CE1D, 0x10D001, 0x10FB11, 0x10FC03, 0x10FD01, 0x110004, 0x12491D,
  0x124A04, 0x124E1D, 0x125004, 0x12571D, 0x125804, 0x12591D, 0x125A04, 0x125E1D, 0x126004,
  0x12891D, 0x128A04, 0x128E1D, 0x129004, 0x12B11D, 0x12B204, 0x12B61D, 0x12B804, 0x12BF1D,
  0x12C004, 0x12C11D, 0x12C204, 0x12C61D, 0x12C804, 0x12D71D, 0x12D804, 0x13111D, 0x131204,
  0x13161D, 0x131804, 0x135B1D, 0x135D05, 0x136011, 0x13690A, 0x137D1D, 0x138004, 0x139015,
  0x139A1D, 0x13A000, 0x13F61D, 0x13F801, 0x13FE1D, 0x14000C, 0x140104, 0x166D15, 0x166E11,
  0x166F04, 0x168016, 0x168104, 0x169B0D, 0x169C0E, 0x169D1D, 0x16A004, 0x16EB11, 0x16EE09,
  0x16F104, 0x16F91D, 0x170004, 0x171205, 0x171506, 0x17161D, 0x171F04, 0x173205, 0x173406,
  0x173511, 0x17371D, 0x174004, 0x175205, 0x17541D, 0x176004, 0x176D1D, 0x176E04, 0x17711D,
  0x177205, 0x17741D, 0x178004, 0x17B405, 0x17B606, 0x17B705, 0x17BE06, 0x17C605, 0x17C706,
  0x17C905, 0x17D411, 0x17D703, 0x17D811, 0x17DB13, 0x17DC04, 0x17DD05, 0x17DE1D, 0x17E008,
  0x17EA1D, 0x17F00A, 0x17FA1D, 0x180011, 0x18060C, 0x180711, 0x180B05, 0x180E1A, 0x180F05,
  0x181008, 0x181A1D, 0x182004, 0x184303, 0x184404, 0x18791D, 0x188004, 0x188505, 0x188704,
  0x18A905, 0x18AA04, 0x18AB1D, 0x18B004, 0x18F61D, 0x190004, 0x191F1D, 0x192005, 0x192306,
  0x192705, 0x192906, 0x192C1D, 0x193006, 0x193205, 0x193306, 0x193905, 0x193C1D, 0x194015,
  0x19411D, 0x194411, 0x194608, 0x195004, 0x196E1D, 0x197004, 0x19751D, 0x198004, 0x19AC1D,
  0x19B004, 0x19CA1D, 0x19D008, 0x19DA0A, 0x19DB1D, 0x19DE15, 0x1A0004, 0x1A1705, 0x1A1906,
  0x1A1B05, 0x1A1C1D, 0x1A1E11, 0x1A2004, 0x1A5506, 0x1A5605, 0x1A5706, 0x1A5805, 0x1A5F1D,
  0x1A6005, 0x1A6106, 0x1A6205, 0x1A6306, 0x1A6505, 0x1A6D06, 0x1A7305, 0x1A7D1D, 0x1A7F05,
  0x1A8008, 0x1A8A1D, 0x1A9008, 0x1A9A1D, 0x1AA011, 0x1AA703, 0x1AA811, 0x1AAE1D, 0x1AB005,
  0x1ABE07, 0x1ABF05, 0x1ADE1D, 0x1AE005, 0x1AEC1D, 0x1B0005, 0x1B0406, 0x1B0504, 0x1B3405,
  0x1B3506, 0x1B3605, 0x1B3B06, 0x1B3C05, 0x1B3D06, 0x1B4205, 0x1B4306, 0x1B4504, 0x1B4D1D,
  0x1B4E11, 0x1B5008, 0x1B5A11, 0x1B6115, 0x1B6B05, 0x1B7415, 0x1B7D11, 0x1B8005, 0x1B8206,
  0x1B8304, 0x1BA106, 0x1BA205, 0x1BA606, 0x1BA805, 0x1BAA06, 0x1BAB05, 0x1BAE04, 0x1BB008,
  0x1BBA04, 0x1BE605, 0x1BE706, 0x1BE805, 0x1BEA06, 0x1BED05, 0x1BEE06, 0x1BEF05, 0x1BF206,
  0x1BF41D, 0x1BFC11, 0x1C0004, 0x1C2406, 0x1C2C05, 0x1C3406, 0x1C3605, 0x1C381D, 0x1C3B11,
  0x1C4008, 0x1C4A1D, 0x1C4D04, 0x1C5008, 0x1C5A04, 0x1C7803, 0x1C7E11, 0x1C8001, 0x1C8900,
  0x1C8A01, 0x1C8B1D, 0x1C9000, 0x1CBB1D, 0x1CBD00, 0x1CC011, 0x1CC81D, 0x1CD005, 0x1CD311,
  0x1CD405, 0x1CE106, 0x1CE205, 0x1CE904, 0x1CED05, 0x1CEE04, 0x1CF405, 0x1CF504, 0x1CF706,
  0x1CF805, 0x1CFA04, 0x1CFB1D, 0x1D0001, 0x1D2C03, 0x1D6B01, 0x1D7803, 0x1D7901, 0x1D9B03,
  0x1DC005, 0x1E001E, 0x1E9501, 0x1E9D1E, 0x1EFF01, 0x1F0800, 0x1F1001, 0x1F161D, 0x1F1800,
  0x1F1E1D, 0x1F2001, 0x1F2800, 0x1F3001, 0x1F3800, 0x1F4001, 0x1F461D, 0x1F4800, 0x1F4E1D,
  0x1F5001, 0x1F581D, 0x1F5900, 0x1F5A1D, 0x1F5B00, 0x1F5C1D, 0x1F5D00, 0x1F5E1D, 0x1F5F00,
  0x1F6001, 0x1F6800, 0x1F7001, 0x1F7E1D, 0x1F8001, 0x1F8802, 0x1F9001, 0x1F9802, 0x1FA001,
  0x1FA802, 0x1FB001, 0x1FB51D, 0x1FB601, 0x1FB800, 0x1FBC02, 0x1FBD14, 0x1FBE01, 0x1FBF14,
  0x1FC201, 0x1FC51D, 0x1FC601, 0x1FC800, 0x1FCC02, 0x1FCD14, 0x1FD001, 0x1FD41D, 0x1FD601,
  0x1FD800, 0x1FDC1D, 0x1FDD14, 0x1FE001, 0x1FE800, 0x1FED14, 0x1FF01D, 0x1FF201, 0x1FF51D,
  0x1FF601, 0x1FF800, 0x1FFC02, 0x1FFD14, 0x1FFF1D, 0x200016, 0x200B1A, 0x20100C, 0x201611,
  0x20180F, 0x201910, 0x201A0D, 0x201B0F, 0x201D10, 0x201E0D, 0x201F0F, 0x202011, 0x202817,
  0x202918, 0x202A1A, 0x202F16, 0x203011, 0x20390F, 0x203A10, 0x203B11, 0x203F0B, 0x204111,
  0x204412, 0x20450D, 0x20460E, 0x204711, 0x205212, 0x205311, 0x20540B, 0x205511, 0x205F16,
  0x20601A, 0x20651D, 0x20661A, 0x20700A, 0x207103, 0x20721D, 0x20740A, 0x207A12, 0x207D0D,
  0x207E0E, 0x207F03, 0x20800A, 0x208A12, 0x208D0D, 0x208E0E, 0x208F1D, 0x209003, 0x209D1D,
  0x20A013, 0x20C21D, 0x20D005, 0x20DD07, 0x20E105, 0x20E207, 0x20E505, 0x20F11D, 0x210015,
  0x210200, 0x210315, 0x210700, 0x210815, 0x210A01, 0x210B00, 0x210E01, 0x211000, 0x211301,
  0x211415, 0x211500, 0x211615, 0x211812, 0x211900, 0x211E15, 0x212400, 0x212515, 0x212600,
  0x212715, 0x212800, 0x212915, 0x212A00, 0x212E15, 0x212F01, 0x213000, 0x213401, 0x213504,
  0x213901, 0x213A15, 0x213C01, 0x213E00, 0x214012, 0x214500, 0x214601, 0x214A15, 0x214B12,
  0x214C15, 0x214E01, 0x214F15, 0x21500A, 0x216009, 0x218300, 0x218401, 0x218509, 0x21890A,
  0x218A15, 0x218C1D, 0x219012, 0x219515, 0x219A12, 0x219C15, 0x21A012, 0x21A115, 0x21A312,
  0x21A415, 0x21A612, 0x21A715, 0x21AE12, 0x21AF15, 0x21CE12, 0x21D015, 0x21D212, 0x21D315,
  0x21D412, 0x21D515, 0x21F412, 0x230015, 0x23080D, 0x23090E, 0x230A0D, 0x230B0E, 0x230C15,
  0x232012, 0x232215, 0x23290D, 0x232A0E, 0x232B15, 0x237C12, 0x237D15, 0x239B12, 0x23B415,
  0x23DC12, 0x23E215, 0x242A1D, 0x244015, 0x244B1D, 0x24600A, 0x249C15, 0x24EA0A, 0x250015,
  0x25B712, 0x25B815, 0x25C112, 0x25C215, 0x25F812, 0x260015, 0x266F12, 0x267015, 0x27680D,
  0x27690E, 0x276A0D, 0x276B0E, 0x276C0D, 0x276D0E, 0x276E0D, 0x276F0E, 0x27700D, 0x27710E,
  0x27720D, 0x27730E, 0x27740D, 0x27750E, 0x27760A, 0x279415, 0x27C012, 0x27C50D, 0x27C60E,
  0x27C712, 0x27E60D, 0x27E70E, 0x27E80D, 0x27E90E, 0x27EA0D, 0x27EB0E, 0x27EC0D, 0x27ED0E,
  0x27EE0D, 0x27EF0E, 0x27F012, 0x280015, 0x290012, 0x29830D, 0x29840E, 0x29850D, 0x29860E,
  0x29870D, 0x29880E, 0x29890D, 0x298A0E, 0x298B0D, 0x298C0E, 0x298D0D, 0x298E0E, 0x298F0D,
  0x29900E, 0x29910D, 0x29920E, 0x29930D, 0x29940E, 0x29950D, 0x29960E, 0x29970D, 0x29980E,
  0x299912, 0x29D80D, 0x29D90E, 0x29DA0D, 0x29DB0E, 0x29DC12, 0x29FC0D, 0x29FD0E, 0x29FE12,
  0x2B0015, 0x2B3012, 0x2B4515, 0x2B4712, 0x2B4D15, 0x2B741D, 0x2B7615, 0x2C0000, 0x2C3001,
  0x2C5F1E, 0x2C6200, 0x2C6501, 0x2C661F, 0x2C6D00, 0x2C701E, 0x2C7301, 0x2C7500, 0x2C7601,
  0x2C7C03, 0x2C7E00, 0x2C801E, 0x2CE301, 0x2CE515, 0x2CEB1F, 0x2CEF05, 0x2CF200, 0x2CF301,
  0x2CF41D, 0x2CF911, 0x2CFD0A, 0x2CFE11, 0x2D0001, 0x2D261D, 0x2D2701, 0x2D281D, 0x2D2D01,
  0x2D2E1D, 0x2D3004, 0x2D681D, 0x2D6F03, 0x2D7011, 0x2D711D, 0x2D7F05, 0x2D8004, 0x2D971D,
  0x2DA004, 0x2DA71D, 0x2DA804, 0x2DAF1D, 0x2DB004, 0x2DB71D, 0x2DB804, 0x2DBF1D, 0x2DC004,
  0x2DC71D, 0x2DC804, 0x2DCF1D, 0x2DD004, 0x2DD71D, 0x2DD804, 0x2DDF1D, 0x2DE005, 0x2E0011,
  0x2E020F, 0x2E0310, 0x2E040F, 0x2E0510, 0x2E0611, 0x2E090F, 0x2E0A10, 0x2E0B11, 0x2E0C0F,
  0x2E0D10, 0x2E0E11, 0x2E170C, 0x2E1811, 0x2E1A0C, 0x2E1B11, 0x2E1C0F, 0x2E1D10, 0x2E1E11,
  0x2E200F, 0x2E2110, 0x2E220D, 0x2E230E, 0x2E240D, 0x2E250E, 0x2E260D, 0x2E270E, 0x2E280D,
  0x2E290E, 0x2E2A11, 0x2E2F03, 0x2E3011, 0x2E3A0C, 0x2E3C11, 0x2E400C, 0x2E4111, 0x2E420D,
  0x2E4311, 0x2E5015, 0x2E5211, 0x2E550D, 0x2E560E, 0x2E570D, 0x2E580E, 0x2E590D, 0x2E5A0E,
  0x2E5B0D, 0x2E5C0E, 0x2E5D0C, 0x2E5E1D, 0x2E8015, 0x2E9A1D, 0x2E9B15, 0x2EF41D, 0x2F0015,
  0x2FD61D, 0x2FF015, 0x300016, 0x300111, 0x300415, 0x300503, 0x300604, 0x300709, 0x30080D,
  0x30090E, 0x300A0D, 0x300B0E, 0x300C0D, 0x300D0E, 0x300E0D, 0x300F0E, 0x30100D, 0x30110E,
  0x301215, 0x30140D, 0x30150E, 0x30160D, 0x30170E, 0x30180D, 0x30190E, 0x301A0D, 0x301B0E,
  0x301C0C, 0x301D0D, 0x301E0E, 0x302015, 0x302109, 0x302A05, 0x302E06, 0x30300C, 0x303103,
  0x303615, 0x303809, 0x303B03, 0x303C04, 0x303D11, 0x303E15, 0x30401D, 0x304104, 0x30971D,
  0x309905, 0x309B14, 0x309D03, 0x309F04, 0x30A00C, 0x30A104, 0x30FB11, 0x30FC03, 0x30FF04,
  0x31001D, 0x310504, 0x31301D, 0x313104, 0x318F1D, 0x319015, 0x31920A, 0x319615, 0x31A004,
  0x31C015, 0x31E61D, 0x31EF15, 0x31F004, 0x320015, 0x321F1D, 0x32200A, 0x322A15, 0x32480A,
  0x325015, 0x32510A, 0x326015, 0x32800A, 0x328A15, 0x32B10A, 0x32C015, 0x340004, 0x4DC015,
  0x4E0004, 0xA01503, 0xA01604, 0xA48D1D, 0xA49015, 0xA4C71D, 0xA4D004, 0xA4F803, 0xA4FE11,
  0xA50004, 0xA60C03, 0xA60D11, 0xA61004, 0xA62008, 0xA62A04, 0xA62C1D, 0xA6401E, 0xA66E04,
  0xA66F05, 0xA67007, 0xA67311, 0xA67405, 0xA67E11, 0xA67F03, 0xA6801E, 0xA69C03, 0xA69E05,
  0xA6A004, 0xA6E609, 0xA6F005, 0xA6F211, 0xA6F81D, 0xA70014, 0xA71703, 0xA72014, 0xA7221E,
  0xA72F01, 0xA7311E, 0xA77003, 0xA77101, 0xA7781F, 0xA77D00, 0xA77E1E, 0xA78803, 0xA78914,
  0xA78B1F, 0xA78F04, 0xA7901E, 0xA79301, 0xA7951E, 0xA7AA00, 0xA7AF01, 0xA7B000, 0xA7B41E,
  0xA7C400, 0xA7C71F, 0xA7CB00, 0xA7CC1E, 0xA7DD1D, 0xA7F103, 0xA7F500, 0xA7F601, 0xA7F704,
  0xA7F803, 0xA7FA01, 0xA7FB04, 0xA80205, 0xA80304, 0xA80605, 0xA80704, 0xA80B05, 0xA80C04,
  0xA82306, 0xA82505, 0xA82706, 0xA82815, 0xA82C05, 0xA82D1D, 0xA8300A, 0xA83615, 0xA83813,
  0xA83915, 0xA83A1D, 0xA84004, 0xA87411, 0xA8781D, 0xA88006, 0xA88204, 0xA8B406, 0xA8C405,
  0xA8C61D, 0xA8CE11, 0xA8D008, 0xA8DA1D, 0xA8E005, 0xA8F204, 0xA8F811, 0xA8FB04, 0xA8FC11,
  0xA8FD04, 0xA8FF05, 0xA90008, 0xA90A04, 0xA92605, 0xA92E11, 0xA93004, 0xA94705, 0xA95206,
  0xA9541D, 0xA95F11, 0xA96004, 0xA97D1D, 0xA98005, 0xA98306, 0xA98404, 0xA9B305, 0xA9B406,
  0xA9B605, 0xA9BA06, 0xA9BC05, 0xA9BE06, 0xA9C111, 0xA9CE1D, 0xA9CF03, 0xA9D008, 0xA9DA1D,
  0xA9DE11, 0xA9E004, 0xA9E505, 0xA9E603, 0xA9E704, 0xA9F008, 0xA9FA04, 0xA9FF1D, 0xAA0004,
  0xAA2905, 0xAA2F06, 0xAA3105, 0xAA3306, 0xAA3505, 0xAA371D, 0xAA4004, 0xAA4305, 0xAA4404,
  0xAA4C05, 0xAA4D06, 0xAA4E1D, 0xAA5008, 0xAA5A1D, 0xAA5C11, 0xAA6004, 0xAA7003, 0xAA7104,
  0xAA7715, 0xAA7A04, 0xAA7B06, 0xAA7C05, 0xAA7D06, 0xAA7E04, 0xAAB005, 0xAAB104, 0xAAB205,
  0xAAB504, 0xAAB705, 0xAAB904, 0xAABE05, 0xAAC004, 0xAAC105, 0xAAC204, 0xAAC31D, 0xAADB04,
  0xAADD03, 0xAADE11, 0xAAE004, 0xAAEB06, 0xAAEC05, 0xAAEE06, 0xAAF011, 0xAAF204, 0xAAF303,
  0xAAF506, 0xAAF605, 0xAAF71D, 0xAB0104, 0xAB071D, 0xAB0904, 0xAB0F1D, 0xAB1104, 0xAB171D,
  0xAB2004, 0xAB271D, 0xAB2804, 0xAB2F1D, 0xAB3001, 0xAB5B14, 0xAB5C03, 0xAB6001, 0xAB6903,
  0xAB6A14, 0xAB6C1D, 0xAB7001, 0xABC004, 0xABE306, 0xABE505, 0xABE606, 0xABE805, 0xABE906,
  0xABEB11, 0xABEC06, 0xABED05, 0xABEE1D, 0xABF008, 0xABFA1D, 0xAC0004, 0xD7A41D, 0xD7B004,
  0xD7C71D, 0xD7CB04, 0xD7FC1D, 0xD8001B, 0xE0001C, 0xF90004, 0xFA6E1D, 0xFA7004, 0xFADA1D,
  0xFB0001, 0xFB071D, 0xFB1301, 0xFB181D, 0xFB1D04, 0xFB1E05, 0xFB1F04, 0xFB2912, 0xFB2A04,
  0xFB371D, 0xFB3804, 0xFB3D1D, 0xFB3E04, 0xFB3F1D, 0xFB4004, 0xFB421D, 0xFB4304, 0xFB451D,
  0xFB4604, 0xFBB214, 0xFBC315, 0xFBD304, 0xFD3E0E, 0xFD3F0D, 0xFD4015, 0xFD5004, 0xFD9015,
  0xFD9204, 0xFDC815, 0xFDD01D, 0xFDF004, 0xFDFC13, 0xFDFD15, 0xFE0005, 0xFE1011, 0xFE170D,
  0xFE180E, 0xFE1911, 0xFE1A1D, 0xFE2005, 0xFE3011, 0xFE310C, 0xFE330B, 0xFE350D, 0xFE360E,
  0xFE370D, 0xFE380E, 0xFE390D, 0xFE3A0E, 0xFE3B0D, 0xFE3C0E, 0xFE3D0D, 0xFE3E0E, 0xFE3F0D,
  0xFE400E, 0xFE410D, 0xFE420E, 0xFE430D, 0xFE440E, 0xFE4511, 0xFE470D, 0xFE480E, 0xFE4911,
  0xFE4D0B, 0xFE5011, 0xFE531D, 0xFE5411, 0xFE580C, 0xFE590D, 0xFE5A0E, 0xFE5B0D, 0xFE5C0E,
  0xFE5D0D, 0xFE5E0E, 0xFE5F11, 0xFE6212, 0xFE630C, 0xFE6412, 0xFE671D, 0xFE6811, 0xFE6913,
  0xFE6A11, 0xFE6C1D, 0xFE7004, 0xFE751D, 0xFE7604, 0xFEFD1D, 0xFEFF1A, 0xFF001D, 0xFF0111,
  0xFF0413, 0xFF0511, 0xFF080D, 0xFF090E, 0xFF0A11, 0xFF0B12, 0xFF0C11, 0xFF0D0C, 0xFF0E11,
  0xFF1008, 0xFF1A11, 0xFF1C12, 0xFF1F11, 0xFF2100, 0xFF3B0D, 0xFF3C11, 0xFF3D0E, 0xFF3E14,
  0xFF3F0B, 0xFF4014, 0xFF4101, 0xFF5B0D, 0xFF5C12, 0xFF5D0E, 0xFF5E12, 0xFF5F0D, 0xFF600E,
  0xFF6111, 0xFF620D, 0xFF630E, 0xFF6411, 0xFF6604, 0xFF7003, 0xFF7104, 0xFF9E03, 0xFFA004,
  0xFFBF1D, 0xFFC204, 0xFFC81D, 0xFFCA04, 0xFFD01D, 0xFFD204, 0xFFD81D, 0xFFDA04, 0xFFDD1D,
  0xFFE013, 0xFFE212, 0xFFE314, 0xFFE415, 0xFFE513, 0xFFE71D, 0xFFE815, 0xFFE912, 0xFFED15,
  0xFFEF1D, 0xFFF91A, 0xFFFC15, 0xFFFE1D, 0x1000004, 0x1000C1D, 0x1000D04, 0x100271D, 0x1002804,
  0x1003B1D, 0x1003C04, 0x1003E1D, 0x1003F04, 0x1004E1D, 0x1005004, 0x1005E1D, 0x1008004,
  0x100FB1D, 0x1010011, 0x101031D, 0x101070A, 0x101341D, 0x1013715, 0x1014009, 0x101750A,
  0x1017915, 0x1018A0A, 0x1018C15, 0x1018F1D, 0x1019015, 0x1019D1D, 0x101A015, 0x101A11D,
  0x101D015, 0x101FD05, 0x101FE1D, 0x1028004, 0x1029D1D, 0x102A004, 0x102D11D, 0x102E005,
  0x102E10A, 0x102FC1D, 0x1030004, 0x103200A, 0x103241D, 0x1032D04, 0x1034109, 0x1034204,
  0x1034A09, 0x1034B1D, 0x1035004, 0x1037605, 0x1037B1D, 0x1038004, 0x1039E1D, 0x1039F11,
  0x103A004, 0x103C41D, 0x103C804, 0x103D011, 0x103D109, 0x103D61D, 0x1040000, 0x1042801,
  0x1045004, 0x1049E1D, 0x104A008, 0x104AA1D, 0x104B000, 0x104D41D, 0x104D801, 0x104FC1D,
  0x1050004, 0x105281D, 0x1053004, 0x105641D, 0x1056F11, 0x1057000, 0x1057B1D, 0x1057C00,
  0x1058B1D, 0x1058C00, 0x105931D, 0x1059400, 0x105961D, 0x1059701, 0x105A21D, 0x105A301,
  0x105B21D, 0x105B301, 0x105BA1D, 0x105BB01, 0x105BD1D, 0x105C004, 0x105F41D, 0x1060004,
  0x107371D, 0x1074004, 0x107561D, 0x1076004, 0x107681D, 0x1078003, 0x107861D, 0x1078703,
  0x107B11D, 0x107B203, 0x107BB1D, 0x1080004, 0x108061D, 0x1080804, 0x108091D, 0x1080A04,
  0x108361D, 0x1083704, 0x108391D, 0x1083C04, 0x1083D1D, 0x1083F04, 0x108561D, 0x1085711,
  0x108580A, 0x1086004, 0x1087715, 0x108790A, 0x1088004, 0x1089F1D, 0x108A70A, 0x108B01D,
  0x108E004, 0x108F31D, 0x108F404, 0x108F61D, 0x108FB0A, 0x1090004, 0x109160A, 0x1091C1D,
  0x1091F11, 0x1092004, 0x1093A1D, 0x1093F11, 0x1094004, 0x1095A1D, 0x1098004, 0x109B81D,
  0x109BC0A, 0x109BE04, 0x109C00A, 0x109D01D, 0x109D20A, 0x10A0004, 0x10A0105, 0x10A041D,
  0x10A0505, 0x10A071D, 0x10A0C05, 0x10A1004, 0x10A141D, 0x10A1504, 0x10A181D, 0x10A1904,
  0x10A361D, 0x10A3805, 0x10A3B1D, 0x10A3F05, 0x10A400A, 0x10A491D, 0x10A5011, 0x10A591D,
  0x10A6004, 0x10A7D0A, 0x10A7F11, 0x10A8004, 0x10A9D0A, 0x10AA01D, 0x10AC004, 0x10AC815,
  0x10AC904, 0x10AE505, 0x10AE71D, 0x10AEB0A, 0x10AF011, 0x10AF71D, 0x10B0004, 0x10B361D,
  0x10B3911, 0x10B4004, 0x10B561D, 0x10B580A, 0x10B6004, 0x10B731D, 0x10B780A, 0x10B8004,
  0x10B921D, 0x10B9911, 0x10B9D1D, 0x10BA90A, 0x10BB01D, 0x10C0004, 0x10C491D, 0x10C8000,
  0x10CB31D, 0x10CC001, 0x10CF31D, 0x10CFA0A, 0x10D0004, 0x10D2405, 0x10D281D, 0x10D3008,
  0x10D3A1D, 0x10D4008, 0x10D4A04, 0x10D4E03, 0x10D4F04, 0x10D5000, 0x10D661D, 0x10D6905,
  0x10D6E0C, 0x10D6F03, 0x10D7001, 0x10D861D, 0x10D8E12, 0x10D901D, 0x10E600A, 0x10E7F1D,
  0x10E8004, 0x10EAA1D, 0x10EAB05, 0x10EAD0C, 0x10EAE1D, 0x10EB004, 0x10EB21D, 0x10EC204,
  0x10EC503, 0x10EC604, 0x10EC81D, 0x10ED011, 0x10ED115, 0x10ED91D, 0x10EFA05, 0x10F0004,
  0x10F1D0A, 0x10F2704, 0x10F281D, 0x10F3004, 0x10F4605, 0x10F510A, 0x10F5511, 0x10F5A1D,
  0x10F7004, 0x10F8205, 0x10F8611, 0x10F8A1D, 0x10FB004, 0x10FC50A, 0x10FCC1D, 0x10FE004,
  0x10FF71D, 0x1100006, 0x1100105, 0x1100206, 0x1100304, 0x1103805, 0x1104711, 0x1104E1D,
  0x110520A, 0x1106608, 0x1107005, 0x1107104, 0x1107305, 0x1107504, 0x110761D, 0x1107F05,
  0x1108206, 0x1108304, 0x110B006, 0x110B305, 0x110B706, 0x110B905, 0x110BB11, 0x110BD1A,
  0x110BE11, 0x110C205, 0x110C31D, 0x110CD1A, 0x110CE1D, 0x110D004, 0x110E91D, 0x110F008,
  0x110FA1D, 0x1110005, 0x1110304, 0x1112705, 0x1112C06, 0x1112D05, 0x111351D, 0x1113608,
  0x1114011, 0x1114404, 0x1114506, 0x1114704, 0x111481D, 0x1115004, 0x1117305, 0x1117411,
  0x1117604, 0x111771D, 0x1118005, 0x1118206, 0x1118304, 0x111B306, 0x111B605, 0x111BF06,
  0x111C104, 0x111C511, 0x111C905, 0x111CD11, 0x111CE06, 0x111CF05, 0x111D008, 0x111DA04,
  0x111DB11, 0x111DC04, 0x111DD11, 0x111E01D, 0x111E10A, 0x111F51D, 0x1120004, 0x112121D,
  0x1121304, 0x1122C06, 0x1122F05, 0x1123206, 0x1123405, 0x1123506, 0x1123605, 0x1123811,
  0x1123E05, 0x1123F04, 0x1124105, 0x112421D, 0x1128004, 0x112871D, 0x1128804, 0x112891D,
  0x1128A04, 0x1128E1D, 0x1128F04, 0x1129E1D, 0x1129F04, 0x112A911, 0x112AA1D, 0x112B004,
  0x112DF05, 0x112E006, 0x112E305, 0x112EB1D, 0x112F008, 0x112FA1D, 0x1130005, 0x1130206,
  0x113041D, 0x1130504, 0x1130D1D, 0x1130F04, 0x113111D, 0x1131304, 0x113291D, 0x1132A04,
  0x113311D, 0x1133204, 0x113341D, 0x1133504, 0x1133A1D, 0x1133B05, 0x1133D04, 0x1133E06,
  0x1134005, 0x1134106, 0x113451D, 0x1134706, 0x113491D, 0x1134B06, 0x1134E1D, 0x1135004,
  0x113511D, 0x1135706, 0x113581D, 0x1135D04, 0x1136206, 0x113641D, 0x1136605, 0x1136D1D,
  0x1137005, 0x113751D, 0x1138004, 0x1138A1D, 0x1138B04, 0x1138C1D, 0x1138E04, 0x1138F1D,
  0x1139004, 0x113B61D, 0x113B704, 0x113B806, 0x113BB05, 0x113C11D, 0x113C206, 0x113C31D,
  0x113C506, 0x113C61D, 0x113C706, 0x113CB1D, 0x113CC06, 0x113CE05, 0x113CF06, 0x113D005,
  0x113D104, 0x113D205, 0x113D304, 0x113D411, 0x113D61D, 0x113D711, 0x113D91D, 0x113E105,
  0x113E31D, 0x1140004, 0x1143506, 0x1143805, 0x1144006, 0x1144205, 0x1144506, 0x1144605,
  0x1144704, 0x1144B11, 0x1145008, 0x1145A11, 0x1145C1D, 0x1145D11, 0x1145E05, 0x1145F04,
  0x114621D, 0x1148004, 0x114B006, 0x114B305, 0x114B906, 0x114BA05, 0x114BB06, 0x114BF05,
  0x114C106, 0x114C205, 0x114C404, 0x114C611, 0x114C704, 0x114C81D, 0x114D008, 0x114DA1D,
  0x1158004, 0x115AF06, 0x115B205, 0x115B61D, 0x115B806, 0x115BC05, 0x115BE06, 0x115BF05,
  0x115C111, 0x115D804, 0x115DC05, 0x115DE1D, 0x1160004, 0x1163006, 0x1163305, 0x1163B06,
  0x1163D05, 0x1163E06, 0x1163F05, 0x1164111, 0x1164404, 0x116451D, 0x1165008, 0x1165A1D,
  0x1166011, 0x1166D1D, 0x1168004, 0x116AB05, 0x116AC06, 0x116AD05, 0x116AE06, 0x116B005,
  0x116B606, 0x116B705, 0x116B804, 0x116B911, 0x116BA1D, 0x116C008, 0x116CA1D, 0x116D008,
  0x116E41D, 0x1170004, 0x1171B1D, 0x1171D05, 0x1171E06, 0x1171F05, 0x1172006, 0x1172205,
  0x1172606, 0x1172705, 0x1172C1D, 0x1173008, 0x1173A0A, 0x1173C11, 0x1173F15, 0x1174004,
  0x117471D, 0x1180004, 0x1182C06, 0x1182F05, 0x1183806, 0x1183905, 0x1183B11, 0x1183C1D,
  0x118A000, 0x118C001, 0x118E008, 0x118EA0A, 0x118F31D, 0x118FF04, 0x119071D, 0x1190904,
  0x1190A1D, 0x1190C04, 0x119141D, 0x1191504, 0x119171D, 0x1191804, 0x1193006, 0x119361D,
  0x1193706, 0x119391D, 0x1193B05, 0x1193D06, 0x1193E05, 0x1193F04, 0x1194006, 0x1194104,
  0x1194206, 0x1194305, 0x1194411, 0x119471D, 0x1195008, 0x1195A1D, 0x119A004, 0x119A81D,
  0x119AA04, 0x119D106, 0x119D405, 0x119D81D, 0x119DA05, 0x119DC06, 0x119E005, 0x119E104,
  0x119E211, 0x119E304, 0x119E406, 0x119E51D, 0x11A0004, 0x11A0105, 0x11A0B04, 0x11A3305,
  0x11A3906, 0x11A3A04, 0x11A3B05, 0x11A3F11, 0x11A4705, 0x11A481D, 0x11A5004, 0x11A5105,
  0x11A5706, 0x11A5905, 0x11A5C04, 0x11A8A05, 0x11A9706, 0x11A9805, 0x11A9A11, 0x11A9D04,
  0x11A9E11, 0x11AA31D, 0x11AB004, 0x11AF91D, 0x11B0011, 0x11B0A1D, 0x11B6005, 0x11B6106,
  0x11B6205, 0x11B6506, 0x11B6605, 0x11B6706, 0x11B681D, 0x11BC004, 0x11BE111, 0x11BE21D,
  0x11BF008, 0x11BFA1D, 0x11C0004, 0x11C091D, 0x11C0A04, 0x11C2F06, 0x11C3005, 0x11C371D,
  0x11C3805, 0x11C3E06, 0x11C3F05, 0x11C4004, 0x11C4111, 0x11C461D, 0x11C5008, 0x11C5A0A,
  0x11C6D1D, 0x11C7011, 0x11C7204, 0x11C901D, 0x11C9205, 0x11CA81D, 0x11CA906, 0x11CAA05,
  0x11CB106, 0x11CB205, 0x11CB406, 0x11CB505, 0x11CB71D, 0x11D0004, 0x11D071D, 0x11D0804,
  0x11D0A1D, 0x11D0B04, 0x11D3105, 0x11D371D, 0x11D3A05, 0x11D3B1D, 0x11D3C05, 0x11D3E1D,
  0x11D3F05, 0x11D4604, 0x11D4705, 0x11D481D, 0x11D5008, 0x11D5A1D, 0x11D6004, 0x11D661D,
  0x11D6704, 0x11D691D, 0x11D6A04, 0x11D8A06, 0x11D8F1D, 0x11D9005, 0x11D921D, 0x11D9306,
  0x11D9505, 0x11D9606, 0x11D9705, 0x11D9804, 0x11D991D, 0x11DA008, 0x11DAA1D, 0x11DB004,
  0x11DD903, 0x11DDA04, 0x11DDC1D, 0x11DE008, 0x11DEA1D, 0x11EE004, 0x11EF305, 0x11EF506,
  0x11EF711, 0x11EF91D, 0x11F0005, 0x11F0204, 0x11F0306, 0x11F0404, 0x11F111D, 0x11F1204,
  0x11F3406, 0x11F3605, 0x11F3B1D, 0x11F3E06, 0x11F4005, 0x11F4106, 0x11F4205, 0x11F4311,
  0x11F5008, 0x11F5A05, 0x11F5B1D, 0x11FB004, 0x11FB11D, 0x11FC00A, 0x11FD515, 0x11FDD13,
  0x11FE115, 0x11FF21D, 0x11FFF11, 0x1200004, 0x1239A1D, 0x1240009, 0x1246F1D, 0x1247011,
  0x124751D, 0x1248004, 0x125441D, 0x12F9004, 0x12FF111, 0x12FF31D, 0x1300004, 0x134301A,
  0x1344005, 0x1344104, 0x1344705, 0x134561D, 0x1346004, 0x143FB1D, 0x1440004, 0x146471D,
  0x1610004, 0x1611E05, 0x1612A06, 0x1612D05, 0x1613008, 0x1613A1D, 0x1680004, 0x16A391D,
  0x16A4004, 0x16A5F1D, 0x16A6008, 0x16A6A1D, 0x16A6E11, 0x16A7004, 0x16ABF1D, 0x16AC008,
  0x16ACA1D, 0x16AD004, 0x16AEE1D, 0x16AF005, 0x16AF511, 0x16AF61D, 0x16B0004, 0x16B3005,
  0x16B3711, 0x16B3C15, 0x16B4003, 0x16B4411, 0x16B4515, 0x16B461D, 0x16B5008, 0x16B5A1D,
  0x16B5B0A, 0x16B621D, 0x16B6304, 0x16B781D, 0x16B7D04, 0x16B901D, 0x16D4003, 0x16D4304,
  0x16D6B03, 0x16D6D11, 0x16D7008, 0x16D7A1D, 0x16E4000, 0x16E6001, 0x16E800A, 0x16E9711,
  0x16E9B1D, 0x16EA000, 0x16EB91D, 0x16EBB01, 0x16ED41D, 0x16F0004, 0x16F4B1D, 0x16F4F05,
  0x16F5004, 0x16F5106, 0x16F881D, 0x16F8F05, 0x16F9303, 0x16FA01D, 0x16FE003, 0x16FE211,
  0x16FE303, 0x16FE405, 0x16FE51D, 0x16FF006, 0x16FF203, 0x16FF409, 0x16FF71D, 0x1700004,
  0x18CD61D, 0x18CFF04, 0x18D1F1D, 0x18D8004, 0x18DF31D, 0x1AFF003, 0x1AFF41D, 0x1AFF503,
  0x1AFFC1D, 0x1AFFD03, 0x1AFFF1D, 0x1B00004, 0x1B1231D, 0x1B13204, 0x1B1331D, 0x1B15004,
  0x1B1531D, 0x1B15504, 0x1B1561D, 0x1B16404, 0x1B1681D, 0x1B17004, 0x1B2FC1D, 0x1BC0004,
  0x1BC6B1D, 0x1BC7004, 0x1BC7D1D, 0x1BC8004, 0x1BC891D, 0x1BC9004, 0x1BC9A1D, 0x1BC9C15,
  0x1BC9D05, 0x1BC9F11, 0x1BCA01A, 0x1BCA41D, 0x1CC0015, 0x1CCF008, 0x1CCFA15, 0x1CCFD1D,
  0x1CD0015, 0x1CEB41D, 0x1CEBA15, 0x1CED11D, 0x1CEE015, 0x1CEF012, 0x1CEF11D, 0x1CF0005,
  0x1CF2E1D, 0x1CF3005, 0x1CF471D, 0x1CF5015, 0x1CFC41D, 0x1D00015, 0x1D0F61D, 0x1D10015,
  0x1D1271D, 0x1D12915, 0x1D16506, 0x1D16705, 0x1D16A15, 0x1D16D06, 0x1D1731A, 0x1D17B05,
  0x1D18315, 0x1D18505, 0x1D18C15, 0x1D1AA05, 0x1D1AE15, 0x1D1EB1D, 0x1D20015, 0x1D24205,
  0x1D24515, 0x1D2461D, 0x1D2C00A, 0x1D2D41D, 0x1D2E00A, 0x1D2F41D, 0x1D30015, 0x1D3571D,
  0x1D3600A, 0x1D3791D, 0x1D40000, 0x1D41A01, 0x1D43400, 0x1D44E01, 0x1D4551D, 0x1D45601,
  0x1D46800, 0x1D48201, 0x1D49C00, 0x1D49D1D, 0x1D49E00, 0x1D4A01D, 0x1D4A200, 0x1D4A31D,
  0x1D4A500, 0x1D4A71D, 0x1D4A900, 0x1D4AD1D, 0x1D4AE00, 0x1D4B601, 0x1D4BA1D, 0x1D4BB01,
  0x1D4BC1D, 0x1D4BD01, 0x1D4C41D, 0x1D4C501, 0x1D4D000, 0x1D4EA01, 0x1D50400, 0x1D5061D,
  0x1D50700, 0x1D50B1D, 0x1D50D00, 0x1D5151D, 0x1D51600, 0x1D51D1D, 0x1D51E01, 0x1D53800,
  0x1D53A1D, 0x1D53B00, 0x1D53F1D, 0x1D54000, 0x1D5451D, 0x1D54600, 0x1D5471D, 0x1D54A00,
  0x1D5511D, 0x1D55201, 0x1D56C00, 0x1D58601, 0x1D5A000, 0x1D5BA01, 0x1D5D400, 0x1D5EE01,
  0x1D60800, 0x1D62201, 0x1D63C00, 0x1D65601, 0x1D67000, 0x1D68A01, 0x1D6A61D, 0x1D6A800,
  0x1D6C112, 0x1D6C201, 0x1D6DB12, 0x1D6DC01, 0x1D6E200, 0x1D6FB12, 0x1D6FC01, 0x1D71512,
  0x1D71601, 0x1D71C00, 0x1D73512, 0x1D73601, 0x1D74F12, 0x1D75001, 0x1D75600, 0x1D76F12,
  0x1D77001, 0x1D78912, 0x1D78A01, 0x1D79000, 0x1D7A912, 0x1D7AA01, 0x1D7C312, 0x1D7C401,
  0x1D7CA00, 0x1D7CB01, 0x1D7CC1D, 0x1D7CE08, 0x1D80015, 0x1DA0005, 0x1DA3715, 0x1DA3B05,
  0x1DA6D15, 0x1DA7505, 0x1DA7615, 0x1DA8405, 0x1DA8515, 0x1DA8711, 0x1DA8C1D, 0x1DA9B05,
  0x1DAA01D, 0x1DAA105, 0x1DAB01D, 0x1DF0001, 0x1DF0A04, 0x1DF0B01, 0x1DF401D, 0x1DF4101,
  0x1DF481D, 0x1DF4901, 0x1DF4A1D, 0x1DF4B01, 0x1DF4D1D, 0x1DF4E01, 0x1DF511D, 0x1DF5201,
  0x1DF681D, 0x1DF6901, 0x1DF6A1D, 0x1DF6B01, 0x1DF6C1D, 0x1DF6D01, 0x1DF6E1D, 0x1DF6F01,
  0x1DF721D, 0x1DF7301, 0x1DF741D, 0x1DF7501, 0x1DF761D, 0x1DF7701, 0x1DF781D, 0x1DF7901,
  0x1DF7A1D, 0x1DF7B01, 0x1DF7C1D, 0x1DF7D01, 0x1DF7E1D, 0x1DF7F01, 0x1DF801D, 0x1DF9001,
  0x1DF971D, 0x1E00005, 0x1E0071D, 0x1E00805, 0x1E0191D, 0x1E01B05, 0x1E0221D, 0x1E02305,
  0x1E0251D, 0x1E02605, 0x1E02B1D, 0x1E03003, 0x1E06E1D, 0x1E08F05, 0x1E0901D, 0x1E10004,
  0x1E12D1D, 0x1E13005, 0x1E13703, 0x1E13E1D, 0x1E14008, 0x1E14A1D, 0x1E14E04, 0x1E14F15,
  0x1E1501D, 0x1E29004, 0x1E2AE05, 0x1E2AF1D, 0x1E2C004, 0x1E2EC05, 0x1E2F008, 0x1E2FA1D,
  0x1E2FF13, 0x1E3001D, 0x1E4D004, 0x1E4EB03, 0x1E4EC05, 0x1E4F008, 0x1E4FA1D, 0x1E5D004,
  0x1E5EE05, 0x1E5F004, 0x1E5F108, 0x1E5FB1D, 0x1E5FF11, 0x1E6001D, 0x1E6C004, 0x1E6DF1D,
  0x1E6E004, 0x1E6E305, 0x1E6E404, 0x1E6E605, 0x1E6E704, 0x1E6EE05, 0x1E6F004, 0x1E6F505,
  0x1E6F61D, 0x1E6FE04, 0x1E6FF03, 0x1E7001D, 0x1E7E004, 0x1E7E71D, 0x1E7E804, 0x1E7EC1D,
  0x1E7ED04, 0x1E7EF1D, 0x1E7F004, 0x1E7FF1D, 0x1E80004, 0x1E8C51D, 0x1E8C70A, 0x1E8D005,
  0x1E8D71D, 0x1E90000, 0x1E92201, 0x1E94405, 0x1E94B03, 0x1E94C1D, 0x1E95008, 0x1E95A1D,
  0x1E95E11, 0x1E9601D, 0x1EC710A, 0x1ECAC15, 0x1ECAD0A, 0x1ECB013, 0x1ECB10A, 0x1ECB51D,
  0x1ED010A, 0x1ED2E15, 0x1ED2F0A, 0x1ED3E1D, 0x1EE0004, 0x1EE041D, 0x1EE0504, 0x1EE201D,
  0x1EE2104, 0x1EE231D, 0x1EE2404, 0x1EE251D, 0x1EE2704, 0x1EE281D, 0x1EE2904, 0x1EE331D,
  0x1EE3404, 0x1EE381D, 0x1EE3904, 0x1EE3A1D, 0x1EE3B04, 0x1EE3C1D, 0x1EE4204, 0x1EE431D,
  0x1EE4704, 0x1EE481D, 0x1EE4904, 0x1EE4A1D, 0x1EE4B04, 0x1EE4C1D, 0x1EE4D04, 0x1EE501D,
  0x1EE5104, 0x1EE531D, 0x1EE5404, 0x1EE551D, 0x1EE5704, 0x1EE581D, 0x1EE5904, 0x1EE5A1D,
  0x1EE5B04, 0x1EE5C1D, 0x1EE5D04, 0x1EE5E1D, 0x1EE5F04, 0x1EE601D, 0x1EE6104, 0x1EE631D,
  0x1EE6404, 0x1EE651D, 0x1EE6704, 0x1EE6B1D, 0x1EE6C04, 0x1EE731D, 0x1EE7404, 0x1EE781D,
  0x1EE7904, 0x1EE7D1D, 0x1EE7E04, 0x1EE7F1D, 0x1EE8004, 0x1EE8A1D, 0x1EE8B04, 0x1EE9C1D,
  0x1EEA104, 0x1EEA41D, 0x1EEA504, 0x1EEAA1D, 0x1EEAB04, 0x1EEBC1D, 0x1EEF012, 0x1EEF21D,
  0x1F00015, 0x1F02C1D, 0x1F03015, 0x1F0941D, 0x1F0A015, 0x1F0AF1D, 0x1F0B115, 0x1F0C01D,
  0x1F0C115, 0x1F0D01D, 0x1F0D115, 0x1F0F61D, 0x1F1000A, 0x1F10D15, 0x1F1AE1D, 0x1F1E615,
  0x1F2031D, 0x1F21015, 0x1F23C1D, 0x1F24015, 0x1F2491D, 0x1F25015, 0x1F2521D, 0x1F26015,
  0x1F2661D, 0x1F30015, 0x1F3FB14, 0x1F40015, 0x1F6D91D, 0x1F6DC15, 0x1F6ED1D, 0x1F6F015,
  0x1F6FD1D, 0x1F70015, 0x1F7DA1D, 0x1F7E015, 0x1F7EC1D, 0x1F7F015, 0x1F7F11D, 0x1F80015,
  0x1F80C1D, 0x1F81015, 0x1F8481D, 0x1F85015, 0x1F85A1D, 0x1F86015, 0x1F8881D, 0x1F89015,
  0x1F8AE1D, 0x1F8B015, 0x1F8BC1D, 0x1F8C015, 0x1F8C21D, 0x1F8D012, 0x1F8D91D, 0x1F90015,
  0x1FA581D, 0x1FA6015, 0x1FA6E1D, 0x1FA7015, 0x1FA7D1D, 0x1FA8015, 0x1FA8B1D, 0x1FA8E15,
  0x1FAC71D, 0x1FAC815, 0x1FAC91D, 0x1FACD15, 0x1FADD1D, 0x1FADF15, 0x1FAEB1D, 0x1FAEF15,
  0x1FAF91D, 0x1FB0015, 0x1FB931D, 0x1FB9415, 0x1FBF008, 0x1FBFA15, 0x1FBFB1D, 0x2000004,
  0x2A6E01D, 0x2A70004, 0x2B81E1D, 0x2B82004, 0x2CEAE1D, 0x2CEB004, 0x2EBE11D, 0x2EBF004,
  0x2EE5E1D, 0x2F80004, 0x2FA1E1D, 0x3000004, 0x3134B1D, 0x3135004, 0x3347A1D, 0xE00011A,
  0xE00021D, 0xE00201A, 0xE00801D, 0xE010005, 0xE01F01D, 0xF00001C, 0xFFFFE1D, 0x1000001C,
  0x10FFFE1D]

end NamingLint.Unicode
