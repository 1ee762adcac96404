/-!
Letters and decimal digits of Unicode 17.0, as names in profile files are read: a letter is a
character of general category L (upper, lower, title case, modifier or other letter), a decimal
digit one of category Nd.

Each entry is a run of such characters: the first in bits 21 to 41 and the last in bits 0 to
20. The runs are sorted and do not touch, so a halving search over them finds whether a
character is in one.

Main statement: the ASCII letter `a` is a letter (`isLetter_a`).
-/

set_option maxRecDepth 10000

namespace Lanes.Text

/-- The runs of letters. -/
def letterRuns : Array UInt64 := #[
  0x0000820005A, 0x0000C20007A, 0x000154000AA, 0x00016A000B5,
  0x000174000BA, 0x000180000D6, 0x0001B0000F6, 0x0001F0002C1,
  0x00058C002D1, 0x0005C0002E4, 0x0005D8002EC, 0x0005DC002EE,
  0x0006E000374, 0x0006EC00377, 0x0006F40037D, 0x0006FE0037F,
  0x00070C00386, 0x0007100038A, 0x0007180038C, 0x00071C003A1,
  0x000746003F5, 0x0007EE00481, 0x0009140052F, 0x000A6200556,
  0x000AB200559, 0x000AC000588, 0x000BA0005EA, 0x000BDE005F2,
  0x000C400064A, 0x000CDC0066F, 0x000CE2006D3, 0x000DAA006D5,
  0x000DCA006E6, 0x000DDC006EF, 0x000DF4006FC, 0x000DFE006FF,
  0x000E2000710, 0x000E240072F, 0x000E9A007A5, 0x000F62007B1,
  0x000F94007EA, 0x000FE8007F5, 0x000FF4007FA, 0x00100000815,
  0x0010340081A, 0x00104800824, 0x00105000828, 0x00108000858,
  0x0010C00086A, 0x0010E000887, 0x0011120088F, 0x001140008C9,
  0x00120800939, 0x00127A0093D, 0x0012A000950, 0x0012B000961,
  0x0012E200980, 0x00130A0098C, 0x00131E00990, 0x001326009A8,
  0x001354009B0, 0x001364009B2, 0x00136C009B9, 0x00137A009BD,
  0x00139C009CE, 0x0013B8009DD, 0x0013BE009E1, 0x0013E0009F1,
  0x0013F8009FC, 0x00140A00A0A, 0x00141E00A10, 0x00142600A28,
  0x00145400A30, 0x00146400A33, 0x00146A00A36, 0x00147000A39,
  0x0014B200A5C, 0x0014BC00A5E, 0x0014E400A74, 0x00150A00A8D,
  0x00151E00A91, 0x00152600AA8, 0x00155400AB0, 0x00156400AB3,
  0x00156A00AB9, 0x00157A00ABD, 0x0015A000AD0, 0x0015C000AE1,
  0x0015F200AF9, 0x00160A00B0C, 0x00161E00B10, 0x00162600B28,
  0x00165400B30, 0x00166400B33, 0x00166A00B39, 0x00167A00B3D,
  0x0016B800B5D, 0x0016BE00B61, 0x0016E200B71, 0x00170600B83,
  0x00170A00B8A, 0x00171C00B90, 0x00172400B95, 0x00173200B9A,
  0x00173800B9C, 0x00173C00B9F, 0x00174600BA4, 0x00175000BAA,
  0x00175C00BB9, 0x0017A000BD0, 0x00180A00C0C, 0x00181C00C10,
  0x00182400C28, 0x00185400C39, 0x00187A00C3D, 0x0018B000C5A,
  0x0018B800C5D, 0x0018C000C61, 0x00190000C80, 0x00190A00C8C,
  0x00191C00C90, 0x00192400CA8, 0x00195400CB3, 0x00196A00CB9,
  0x00197A00CBD, 0x0019B800CDE, 0x0019C000CE1, 0x0019E200CF2,
  0x001A0800D0C, 0x001A1C00D10, 0x001A2400D3A, 0x001A7A00D3D,
  0x001A9C00D4E, 0x001AA800D56, 0x001ABE00D61, 0x001AF400D7F,
  0x001B0A00D96, 0x001B3400DB1, 0x001B6600DBB, 0x001B7A00DBD,
  0x001B8000DC6, 0x001C0200E30, 0x001C6400E33, 0x001C8000E46,
  0x001D0200E82, 0x001D0800E84, 0x001D0C00E8A, 0x001D1800EA3,
  0x001D4A00EA5, 0x001D4E00EB0, 0x001D6400EB3, 0x001D7A00EBD,
  0x001D8000EC4, 0x001D8C00EC6, 0x001DB800EDF, 0x001E0000F00,
  0x001E8000F47, 0x001E9200F6C, 0x001F1000F8C, 0x0020000102A,
  0x00207E0103F, 0x0020A001055, 0x0020B40105D, 0x0020C201061,
  0x0020CA01066, 0x0020DC01070, 0x0020EA01081, 0x00211C0108E,
  0x002140010C5, 0x00218E010C7, 0x00219A010CD, 0x0021A0010FA,
  0x0021F801248, 0x0024940124D, 0x0024A001256, 0x0024B001258,
  0x0024B40125D, 0x0024C001288, 0x0025140128D, 0x002520012B0,
  0x002564012B5, 0x002570012BE, 0x002580012C0, 0x002584012C5,
  0x002590012D6, 0x0025B001310, 0x00262401315, 0x0026300135A,
  0x0027000138F, 0x002740013F5, 0x0027F0013FD, 0x0028020166C,
  0x002CDE0167F, 0x002D020169A, 0x002D40016EA, 0x002DE2016F8,
  0x002E0001711, 0x002E3E01731, 0x002E8001751, 0x002EC00176C,
  0x002EDC01770, 0x002F00017B3, 0x002FAE017D7, 0x002FB8017DC,
  0x00304001878, 0x00310001884, 0x00310E018A8, 0x003154018AA,
  0x003160018F5, 0x0032000191E, 0x0032A00196D, 0x0032E001974,
  0x003300019AB, 0x003360019C9, 0x00340001A16, 0x00344001A54,
  0x00354E01AA7, 0x00360A01B33, 0x00368A01B4C, 0x00370601BA0,
  0x00375C01BAF, 0x00377401BE5, 0x00380001C23, 0x00389A01C4F,
  0x0038B401C7D, 0x00390001C8A, 0x00392001CBA, 0x00397A01CBF,
  0x0039D201CEC, 0x0039DC01CF3, 0x0039EA01CF6, 0x0039F401CFA,
  0x003A0001DBF, 0x003C0001F15, 0x003E3001F1D, 0x003E4001F45,
  0x003E9001F4D, 0x003EA001F57, 0x003EB201F59, 0x003EB601F5B,
  0x003EBA01F5D, 0x003EBE01F7D, 0x003F0001FB4, 0x003F6C01FBC,
  0x003F7C01FBE, 0x003F8401FC4, 0x003F8C01FCC, 0x003FA001FD3,
  0x003FAC01FDB, 0x003FC001FEC, 0x003FE401FF4, 0x003FEC01FFC,
  0x0040E202071, 0x0040FE0207F, 0x0041200209C, 0x00420402102,
  0x00420E02107, 0x00421402113, 0x00422A02115, 0x0042320211D,
  0x00424802124, 0x00424C02126, 0x00425002128, 0x0042540212D,
  0x00425E02139, 0x0042780213F, 0x00428A02149, 0x00429C0214E,
  0x00430602184, 0x00580002CE4, 0x0059D602CEE, 0x0059E402CF3,
  0x005A0002D25, 0x005A4E02D27, 0x005A5A02D2D, 0x005A6002D67,
  0x005ADE02D6F, 0x005B0002D96, 0x005B4002DA6, 0x005B5002DAE,
  0x005B6002DB6, 0x005B7002DBE, 0x005B8002DC6, 0x005B9002DCE,
  0x005BA002DD6, 0x005BB002DDE, 0x005C5E02E2F, 0x00600A03006,
  0x00606203035, 0x0060760303C, 0x00608203096, 0x00613A0309F,
  0x006142030FA, 0x0061F8030FF, 0x00620A0312F, 0x0062620318E,
  0x006340031BF, 0x0063E0031FF, 0x00680004DBF, 0x009C000A48C,
  0x0149A00A4FD, 0x014A000A60C, 0x014C200A61F, 0x014C540A62B,
  0x014C800A66E, 0x014CFE0A69D, 0x014D400A6E5, 0x014E2E0A71F,
  0x014E440A788, 0x014F160A7DC, 0x014FE20A801, 0x0150060A805,
  0x01500E0A80A, 0x0150180A822, 0x0150800A873, 0x0151040A8B3,
  0x0151E40A8F7, 0x0151F60A8FB, 0x0151FA0A8FE, 0x0152140A925,
  0x0152600A946, 0x0152C00A97C, 0x0153080A9B2, 0x01539E0A9CF,
  0x0153C00A9E4, 0x0153CC0A9EF, 0x0153F40A9FE, 0x0154000AA28,
  0x0154800AA42, 0x0154880AA4B, 0x0154C00AA76, 0x0154F40AA7A,
  0x0154FC0AAAF, 0x0155620AAB1, 0x01556A0AAB6, 0x0155720AABD,
  0x0155800AAC0, 0x0155840AAC2, 0x0155B60AADD, 0x0155C00AAEA,
  0x0155E40AAF4, 0x0156020AB06, 0x0156120AB0E, 0x0156220AB16,
  0x0156400AB26, 0x0156500AB2E, 0x0156600AB5A, 0x0156B80AB69,
  0x0156E00ABE2, 0x0158000D7A3, 0x01AF600D7C6, 0x01AF960D7FB,
  0x01F2000FA6D, 0x01F4E00FAD9, 0x01F6000FB06, 0x01F6260FB17,
  0x01F63A0FB1D, 0x01F63E0FB28, 0x01F6540FB36, 0x01F6700FB3C,
  0x01F67C0FB3E, 0x01F6800FB41, 0x01F6860FB44, 0x01F68C0FBB1,
  0x01F7A60FD3D, 0x01FAA00FD8F, 0x01FB240FDC7, 0x01FBE00FDFB,
  0x01FCE00FE74, 0x01FCEC0FEFC, 0x01FE420FF3A, 0x01FE820FF5A,
  0x01FECC0FFBE, 0x01FF840FFC7, 0x01FF940FFCF, 0x01FFA40FFD7,
  0x01FFB40FFDC, 0x0200001000B, 0x02001A10026, 0x0200501003A,
  0x0200781003D, 0x02007E1004D, 0x0200A01005D, 0x020100100FA,
  0x0205001029C, 0x020540102D0, 0x0206001031F, 0x02065A10340,
  0x02068410349, 0x0206A010375, 0x0207001039D, 0x020740103C3,
  0x020790103CF, 0x0208001049D, 0x020960104D3, 0x0209B0104FB,
  0x020A0010527, 0x020A6010563, 0x020AE01057A, 0x020AF81058A,
  0x020B1810592, 0x020B2810595, 0x020B2E105A1, 0x020B46105B1,
  0x020B66105B9, 0x020B76105BC, 0x020B80105F3, 0x020C0010736,
  0x020E8010755, 0x020EC010767, 0x020F0010785, 0x020F0E107B0,
  0x020F64107BA, 0x02100010805, 0x02101010808, 0x02101410835,
  0x02106E10838, 0x0210781083C, 0x02107E10855, 0x0210C010876,
  0x0211001089E, 0x0211C0108F2, 0x0211E8108F5, 0x02120010915,
  0x02124010939, 0x02128010959, 0x021300109B7, 0x02137C109BF,
  0x02140010A00, 0x02142010A13, 0x02142A10A17, 0x02143210A35,
  0x0214C010A7C, 0x02150010A9C, 0x02158010AC7, 0x02159210AE4,
  0x02160010B35, 0x02168010B55, 0x0216C010B72, 0x02170010B91,
  0x02180010C48, 0x02190010CB2, 0x02198010CF2, 0x021A0010D23,
  0x021A9410D65, 0x021ADE10D85, 0x021D0010EA9, 0x021D6010EB1,
  0x021D8410EC7, 0x021E0010F1C, 0x021E4E10F27, 0x021E6010F45,
  0x021EE010F81, 0x021F6010FC4, 0x021FC010FF6, 0x02200611037,
  0x0220E211072, 0x0220EA11075, 0x022106110AF, 0x0221A0110E8,
  0x02220611126, 0x02228811144, 0x02228E11147, 0x0222A011172,
  0x0222EC11176, 0x022306111B2, 0x022382111C4, 0x0223B4111DA,
  0x0223B8111DC, 0x02240011211, 0x0224261122B, 0x02247E11240,
  0x02250011286, 0x02251011288, 0x0225141128D, 0x02251E1129D,
  0x02253E112A8, 0x022560112DE, 0x02260A1130C, 0x02261E11310,
  0x02262611328, 0x02265411330, 0x02266411333, 0x02266A11339,
  0x02267A1133D, 0x0226A011350, 0x0226BA11361, 0x02270011389,
  0x0227161138B, 0x02271C1138E, 0x022720113B5, 0x02276E113B7,
  0x0227A2113D1, 0x0227A6113D3, 0x02280011434, 0x02288E1144A,
  0x0228BE11461, 0x022900114AF, 0x022988114C5, 0x02298E114C7,
  0x022B00115AE, 0x022BB0115DB, 0x022C001162F, 0x022C8811644,
  0x022D00116AA, 0x022D70116B8, 0x022E001171A, 0x022E8011746,
  0x0230001182B, 0x023140118DF, 0x0231FE11906, 0x02321211909,
  0x02321811913, 0x02322A11916, 0x0232301192F, 0x02327E1193F,
  0x02328211941, 0x023340119A7, 0x023354119D0, 0x0233C2119E1,
  0x0233C6119E3, 0x02340011A00, 0x02341611A32, 0x02347411A3A,
  0x0234A011A50, 0x0234B811A89, 0x02353A11A9D, 0x02356011AF8,
  0x02378011BE0, 0x02380011C08, 0x02381411C2E, 0x02388011C40,
  0x0238E411C8F, 0x023A0011D06, 0x023A1011D09, 0x023A1611D30,
  0x023A8C11D46, 0x023AC011D65, 0x023ACE11D68, 0x023AD411D89,
  0x023B3011D98, 0x023B6011DDB, 0x023DC011EF2, 0x023E0411F02,
  0x023E0811F10, 0x023E2411F33, 0x023F6011FB0, 0x02400012399,
  0x02490012543, 0x025F2012FF0, 0x0260001342F, 0x02688213446,
  0x0268C0143FA, 0x02880014646, 0x02C2001611D, 0x02D00016A38,
  0x02D48016A5E, 0x02D4E016ABE, 0x02D5A016AED, 0x02D60016B2F,
  0x02D68016B43, 0x02D6C616B77, 0x02D6FA16B8F, 0x02DA8016D6C,
  0x02DC8016E7F, 0x02DD4016EB8, 0x02DD7616ED3, 0x02DE0016F4A,
  0x02DEA016F50, 0x02DF2616F9F, 0x02DFC016FE1, 0x02DFC616FE3,
  0x02DFE416FF3, 0x02E00018CD5, 0x0319FE18D1E, 0x031B0018DF2,
  0x035FE01AFF3, 0x035FEA1AFFB, 0x035FFA1AFFE, 0x0360001B122,
  0x0362641B132, 0x0362A01B152, 0x0362AA1B155, 0x0362C81B167,
  0x0362E01B2FB, 0x0378001BC6A, 0x0378E01BC7C, 0x0379001BC88,
  0x0379201BC99, 0x03A8001D454, 0x03A8AC1D49C, 0x03A93C1D49F,
  0x03A9441D4A2, 0x03A94A1D4A6, 0x03A9521D4AC, 0x03A95C1D4B9,
  0x03A9761D4BB, 0x03A97A1D4C3, 0x03A98A1D505, 0x03AA0E1D50A,
  0x03AA1A1D514, 0x03AA2C1D51C, 0x03AA3C1D539, 0x03AA761D53E,
  0x03AA801D544, 0x03AA8C1D546, 0x03AA941D550, 0x03AAA41D6A5,
  0x03AD501D6C0, 0x03AD841D6DA, 0x03ADB81D6FA, 0x03ADF81D714,
  0x03AE2C1D734, 0x03AE6C1D74E, 0x03AEA01D76E, 0x03AEE01D788,
  0x03AF141D7A8, 0x03AF541D7C2, 0x03AF881D7CB, 0x03BE001DF1E,
  0x03BE4A1DF2A, 0x03C0601E06D, 0x03C2001E12C, 0x03C26E1E13D,
  0x03C29C1E14E, 0x03C5201E2AD, 0x03C5801E2EB, 0x03C9A01E4EB,
  0x03CBA01E5ED, 0x03CBE01E5F0, 0x03CD801E6DE, 0x03CDC01E6E2,
  0x03CDC81E6E5, 0x03CDCE1E6ED, 0x03CDE01E6F4, 0x03CDFC1E6FF,
  0x03CFC01E7E6, 0x03CFD01E7EB, 0x03CFDA1E7EE, 0x03CFE01E7FE,
  0x03D0001E8C4, 0x03D2001E943, 0x03D2961E94B, 0x03DC001EE03,
  0x03DC0A1EE1F, 0x03DC421EE22, 0x03DC481EE24, 0x03DC4E1EE27,
  0x03DC521EE32, 0x03DC681EE37, 0x03DC721EE39, 0x03DC761EE3B,
  0x03DC841EE42, 0x03DC8E1EE47, 0x03DC921EE49, 0x03DC961EE4B,
  0x03DC9A1EE4F, 0x03DCA21EE52, 0x03DCA81EE54, 0x03DCAE1EE57,
  0x03DCB21EE59, 0x03DCB61EE5B, 0x03DCBA1EE5D, 0x03DCBE1EE5F,
  0x03DCC21EE62, 0x03DCC81EE64, 0x03DCCE1EE6A, 0x03DCD81EE72,
  0x03DCE81EE77, 0x03DCF21EE7C, 0x03DCFC1EE7E, 0x03DD001EE89,
  0x03DD161EE9B, 0x03DD421EEA3, 0x03DD4A1EEA9, 0x03DD561EEBB,
  0x0400002A6DF, 0x054E002B81D, 0x0570402CEAD, 0x059D602EBE0,
  0x05D7E02EE5D, 0x05F0002FA1D, 0x0600003134A, 0x0626A033479]

/-- The runs of decimal digits. -/
def decimalRuns : Array UInt64 := #[
  0x00006000039, 0x000CC000669, 0x000DE0006F9, 0x000F80007C9,
  0x0012CC0096F, 0x0013CC009EF, 0x0014CC00A6F, 0x0015CC00AEF,
  0x0016CC00B6F, 0x0017CC00BEF, 0x0018CC00C6F, 0x0019CC00CEF,
  0x001ACC00D6F, 0x001BCC00DEF, 0x001CA000E59, 0x001DA000ED9,
  0x001E4000F29, 0x00208001049, 0x00212001099, 0x002FC0017E9,
  0x00302001819, 0x00328C0194F, 0x0033A0019D9, 0x00350001A89,
  0x00352001A99, 0x0036A001B59, 0x00376001BB9, 0x00388001C49,
  0x0038A001C59, 0x014C400A629, 0x0151A00A8D9, 0x0152000A909,
  0x0153A00A9D9, 0x0153E00A9F9, 0x0154A00AA59, 0x0157E00ABF9,
  0x01FE200FF19, 0x020940104A9, 0x021A6010D39, 0x021A8010D49,
  0x0220CC1106F, 0x0221E0110F9, 0x02226C1113F, 0x0223A0111D9,
  0x0225E0112F9, 0x0228A011459, 0x0229A0114D9, 0x022CA011659,
  0x022D80116C9, 0x022DA0116E3, 0x022E6011739, 0x0231C0118E9,
  0x0232A011959, 0x0237E011BF9, 0x0238A011C59, 0x023AA011D59,
  0x023B4011DA9, 0x023BC011DE9, 0x023EA011F59, 0x02C26016139,
  0x02D4C016A69, 0x02D58016AC9, 0x02D6A016B59, 0x02DAE016D79,
  0x0399E01CCF9, 0x03AF9C1D7FF, 0x03C2801E149, 0x03C5E01E2F9,
  0x03C9E01E4F9, 0x03CBE21E5FA, 0x03D2A01E959, 0x03F7E01FBF9]

/-- Whether `n` lies in one of the runs `t[lo]` to `t[hi - 1]`, searching by halves with `fuel`
steps at most. -/
def inRunTable (t : Array UInt64) (n : Nat) : Nat → Nat → Nat → Bool
  | 0, _, _ => false
  | fuel + 1, lo, hi =>
    if lo < hi then
      let mid := (lo + hi) / 2
      let x := t.getD mid 0
      if n < (x >>> 21).toNat then inRunTable t n fuel lo mid
      else if (x &&& 0x1FFFFF).toNat < n then inRunTable t n fuel (mid + 1) hi
      else true
    else false

/-- Whether a character is a letter. ASCII is answered without the table. -/
def isLetter (c : Char) : Bool :=
  let n := c.toNat
  if n < 0x80 then ('a' ≤ c && c ≤ 'z') || ('A' ≤ c && c ≤ 'Z')
  else inRunTable letterRuns n 64 0 letterRuns.size

/-- Whether a character is a decimal digit. ASCII is answered without the table. -/
def isDecimalDigit (c : Char) : Bool :=
  let n := c.toNat
  if n < 0x80 then '0' ≤ c && c ≤ '9'
  else inRunTable decimalRuns n 64 0 decimalRuns.size

theorem isLetter_a : isLetter 'a' = true := by
  decide

end Lanes.Text
