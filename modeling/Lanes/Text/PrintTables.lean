/-!
The characters that do not print as themselves in quoted text: control, format, surrogate,
private-use and unassigned code points, and every space but the ASCII one. A character prints
when it is a letter, a mark, a number, a punctuation sign or a symbol of Unicode 17.0, or the
ASCII space.

Each entry is a run of such characters: the first in bits 21 to 41 and the last in bits 0 to
20. The runs are sorted and do not touch.
-/

set_option maxRecDepth 10000

namespace Lanes.Text

/-- The runs of characters that do not print as themselves. -/
def unprintableRuns : Array UInt64 := #[
  0x0000000001F, 0x0000FE000A0, 0x00015A000AD, 0x0006F000379,
  0x00070000383, 0x0007160038B, 0x00071A0038D, 0x000744003A2,
  0x000A6000530, 0x000AAE00558, 0x000B160058C, 0x000B2000590,
  0x000B90005CF, 0x000BD6005EE, 0x000BEA00605, 0x000C380061C,
  0x000DBA006DD, 0x000E1C0070F, 0x000E960074C, 0x000F64007BF,
  0x000FF6007FC, 0x00105C0082F, 0x00107E0083F, 0x0010B80085D,
  0x0010BE0085F, 0x0010D60086F, 0x00112000896, 0x0011C4008E2,
  0x00130800984, 0x00131A0098E, 0x00132200992, 0x001352009A9,
  0x001362009B1, 0x001366009B5, 0x001374009BB, 0x00138A009C6,
  0x001392009CA, 0x00139E009D6, 0x0013B0009DB, 0x0013BC009DE,
  0x0013C8009E5, 0x0013FE00A00, 0x00140800A04, 0x00141600A0E,
  0x00142200A12, 0x00145200A29, 0x00146200A31, 0x00146800A34,
  0x00146E00A37, 0x00147400A3B, 0x00147A00A3D, 0x00148600A46,
  0x00149200A4A, 0x00149C00A50, 0x0014A400A58, 0x0014BA00A5D,
  0x0014BE00A65, 0x0014EE00A80, 0x00150800A84, 0x00151C00A8E,
  0x00152400A92, 0x00155200AA9, 0x00156200AB1, 0x00156800AB4,
  0x00157400ABB, 0x00158C00AC6, 0x00159400ACA, 0x00159C00ACF,
  0x0015A200ADF, 0x0015C800AE5, 0x0015E400AF8, 0x00160000B00,
  0x00160800B04, 0x00161A00B0E, 0x00162200B12, 0x00165200B29,
  0x00166200B31, 0x00166800B34, 0x00167400B3B, 0x00168A00B46,
  0x00169200B4A, 0x00169C00B54, 0x0016B000B5B, 0x0016BC00B5E,
  0x0016C800B65, 0x0016F000B81, 0x00170800B84, 0x00171600B8D,
  0x00172200B91, 0x00172C00B98, 0x00173600B9B, 0x00173A00B9D,
  0x00174000BA2, 0x00174A00BA7, 0x00175600BAD, 0x00177400BBD,
  0x00178600BC5, 0x00179200BC9, 0x00179C00BCF, 0x0017A200BD6,
  0x0017B000BE5, 0x0017F600BFF, 0x00181A00C0D, 0x00182200C11,
  0x00185200C29, 0x00187400C3B, 0x00188A00C45, 0x00189200C49,
  0x00189C00C54, 0x0018AE00C57, 0x0018B600C5B, 0x0018BC00C5F,
  0x0018C800C65, 0x0018E000C76, 0x00191A00C8D, 0x00192200C91,
  0x00195200CA9, 0x00196800CB4, 0x00197400CBB, 0x00198A00CC5,
  0x00199200CC9, 0x00199C00CD4, 0x0019AE00CDB, 0x0019BE00CDF,
  0x0019C800CE5, 0x0019E000CF0, 0x0019E800CFF, 0x001A1A00D0D,
  0x001A2200D11, 0x001A8A00D45, 0x001A9200D49, 0x001AA000D53,
  0x001AC800D65, 0x001B0000D80, 0x001B0800D84, 0x001B2E00D99,
  0x001B6400DB2, 0x001B7800DBC, 0x001B7C00DBF, 0x001B8E00DC9,
  0x001B9600DCE, 0x001BAA00DD5, 0x001BAE00DD7, 0x001BC000DE5,
  0x001BE000DF1, 0x001BEA00E00, 0x001C7600E3E, 0x001CB800E80,
  0x001D0600E83, 0x001D0A00E85, 0x001D1600E8B, 0x001D4800EA4,
  0x001D4C00EA6, 0x001D7C00EBF, 0x001D8A00EC5, 0x001D8E00EC7,
  0x001D9E00ECF, 0x001DB400EDB, 0x001DC000EFF, 0x001E9000F48,
  0x001EDA00F70, 0x001F3000F98, 0x001F7A00FBD, 0x001F9A00FCD,
  0x001FB600FFF, 0x00218C010C6, 0x002190010CC, 0x00219C010CF,
  0x00249201249, 0x00249C0124F, 0x0024AE01257, 0x0024B201259,
  0x0024BC0125F, 0x00251201289, 0x00251C0128F, 0x002562012B1,
  0x00256C012B7, 0x00257E012BF, 0x002582012C1, 0x00258C012C7,
  0x0025AE012D7, 0x00262201311, 0x00262C01317, 0x0026B60135C,
  0x0026FA0137F, 0x0027340139F, 0x0027EC013F7, 0x0027FC013FF,
  0x002D0001680, 0x002D3A0169F, 0x002DF2016FF, 0x002E2C0171E,
  0x002E6E0173F, 0x002EA80175F, 0x002EDA0176D, 0x002EE201771,
  0x002EE80177F, 0x002FBC017DF, 0x002FD4017EF, 0x002FF4017FF,
  0x00301C0180E, 0x0030340181F, 0x0030F20187F, 0x003156018AF,
  0x0031EC018FF, 0x00323E0191F, 0x0032580192F, 0x0032780193F,
  0x00328201943, 0x0032DC0196F, 0x0032EA0197F, 0x003358019AF,
  0x003394019CF, 0x0033B6019DD, 0x00343801A1D, 0x0034BE01A5F,
  0x0034FA01A7E, 0x00351401A8F, 0x00353401A9F, 0x00355C01AAF,
  0x0035BC01ADF, 0x0035D801AFF, 0x00369A01B4D, 0x0037E801BFB,
  0x00387001C3A, 0x00389401C4C, 0x00391601C8F, 0x00397601CBC,
  0x00399001CCF, 0x0039F601CFF, 0x003E2C01F17, 0x003E3C01F1F,
  0x003E8C01F47, 0x003E9C01F4F, 0x003EB001F58, 0x003EB401F5A,
  0x003EB801F5C, 0x003EBC01F5E, 0x003EFC01F7F, 0x003F6A01FB5,
  0x003F8A01FC5, 0x003FA801FD5, 0x003FB801FDC, 0x003FE001FF1,
  0x003FEA01FF5, 0x003FFE0200F, 0x0040500202F, 0x0040BE0206F,
  0x0040E402073, 0x00411E0208F, 0x00413A0209F, 0x004184020CF,
  0x0041E2020FF, 0x0043180218F, 0x0048540243F, 0x0048960245F,
  0x0056E802B75, 0x0059E802CF8, 0x005A4C02D26, 0x005A5002D2C,
  0x005A5C02D2F, 0x005AD002D6E, 0x005AE202D7E, 0x005B2E02D9F,
  0x005B4E02DA7, 0x005B5E02DAF, 0x005B6E02DB7, 0x005B7E02DBF,
  0x005B8E02DC7, 0x005B9E02DCF, 0x005BAE02DD7, 0x005BBE02DDF,
  0x005CBC02E7F, 0x005D3402E9A, 0x005DE802EFF, 0x005FAC02FEF,
  0x00600003000, 0x00608003040, 0x00612E03098, 0x00620003104,
  0x00626003130, 0x00631E0318F, 0x0063CC031EE, 0x00643E0321F,
  0x01491A0A48F, 0x01498E0A4CF, 0x014C580A63F, 0x014DF00A6FF,
  0x014FBA0A7F0, 0x01505A0A82F, 0x0150740A83F, 0x0150F00A87F,
  0x01518C0A8CD, 0x0151B40A8DF, 0x0152A80A95E, 0x0152FA0A97F,
  0x01539C0A9CE, 0x0153B40A9DD, 0x0153FE0A9FF, 0x01546E0AA3F,
  0x01549C0AA4F, 0x0154B40AA5B, 0x0155860AADA, 0x0155EE0AB00,
  0x01560E0AB08, 0x01561E0AB10, 0x01562E0AB1F, 0x01564E0AB27,
  0x01565E0AB2F, 0x0156D80AB6F, 0x0157DC0ABEF, 0x0157F40ABFF,
  0x01AF480D7AF, 0x01AF8E0D7CA, 0x01AFF80F8FF, 0x01F4DC0FA6F,
  0x01F5B40FAFF, 0x01F60E0FB12, 0x01F6300FB1C, 0x01F66E0FB37,
  0x01F67A0FB3D, 0x01F67E0FB3F, 0x01F6840FB42, 0x01F68A0FB45,
  0x01FBA00FDEF, 0x01FC340FE1F, 0x01FCA60FE53, 0x01FCCE0FE67,
  0x01FCD80FE6F, 0x01FCEA0FE75, 0x01FDFA0FF00, 0x01FF7E0FFC1,
  0x01FF900FFC9, 0x01FFA00FFD1, 0x01FFB00FFD9, 0x01FFBA0FFDF,
  0x01FFCE0FFE7, 0x01FFDE0FFFB, 0x01FFFC0FFFF, 0x0200181000C,
  0x02004E10027, 0x0200761003B, 0x02007C1003E, 0x02009C1004F,
  0x0200BC1007F, 0x0201F6100FF, 0x02020610106, 0x02026810136,
  0x02031E1018F, 0x02033A1019F, 0x020342101CF, 0x0203FC1027F,
  0x02053A1029F, 0x0205A2102DF, 0x0205F8102FF, 0x0206481032C,
  0x0206961034F, 0x0206F61037F, 0x02073C1039E, 0x020788103C7,
  0x0207AC103FF, 0x02093C1049F, 0x020954104AF, 0x0209A8104D7,
  0x0209F8104FF, 0x020A501052F, 0x020AC81056E, 0x020AF61057B,
  0x020B161058B, 0x020B2610593, 0x020B2C10596, 0x020B44105A2,
  0x020B64105B2, 0x020B74105BA, 0x020B7A105BF, 0x020BE8105FF,
  0x020E6E1073F, 0x020EAC1075F, 0x020ED01077F, 0x020F0C10786,
  0x020F62107B1, 0x020F76107FF, 0x02100C10807, 0x02101210809,
  0x02106C10836, 0x0210721083B, 0x02107A1083E, 0x0210AC10856,
  0x02113E108A6, 0x021160108DF, 0x0211E6108F3, 0x0211EC108FA,
  0x0212381091E, 0x0212741093E, 0x0212B41097F, 0x021370109BB,
  0x0213A0109D1, 0x02140810A04, 0x02140E10A0B, 0x02142810A14,
  0x02143010A18, 0x02146C10A37, 0x02147610A3E, 0x02149210A4F,
  0x0214B210A5F, 0x02154010ABF, 0x0215CE10AEA, 0x0215EE10AFF,
  0x02166C10B38, 0x0216AC10B57, 0x0216E610B77, 0x02172410B98,
  0x02173A10BA8, 0x02176010BFF, 0x02189210C7F, 0x02196610CBF,
  0x0219E610CF9, 0x021A5010D2F, 0x021A7410D3F, 0x021ACC10D68,
  0x021B0C10D8D, 0x021B2010E5F, 0x021CFE10E7F, 0x021D5410EAA,
  0x021D5C10EAF, 0x021D6410EC1, 0x021D9010ECF, 0x021DB210EF9,
  0x021E5010F2F, 0x021EB410F6F, 0x021F1410FAF, 0x021F9810FDF,
  0x021FEE10FFF, 0x02209C11051, 0x0220EC1107E, 0x02217A110BD,
  0x022186110CF, 0x0221D2110EF, 0x0221F4110FF, 0x02226A11135,
  0x0222901114F, 0x0222EE1117F, 0x0223C0111E0, 0x0223EA111FF,
  0x02242411212, 0x0224841127F, 0x02250E11287, 0x02251211289,
  0x02251C1128E, 0x02253C1129E, 0x022554112AF, 0x0225D6112EF,
  0x0225F4112FF, 0x02260811304, 0x02261A1130E, 0x02262211312,
  0x02265211329, 0x02266211331, 0x02266811334, 0x0226741133A,
  0x02268A11346, 0x0226921134A, 0x02269C1134F, 0x0226A211356,
  0x0226B01135C, 0x0226C811365, 0x0226DA1136F, 0x0226EA1137F,
  0x0227141138A, 0x0227181138D, 0x02271E1138F, 0x02276C113B6,
  0x022782113C1, 0x022786113C4, 0x02278C113C6, 0x022796113CB,
  0x0227AC113D6, 0x0227B2113E0, 0x0227C6113FF, 0x0228B81145C,
  0x0228C41147F, 0x022990114CF, 0x0229B41157F, 0x022B6C115B7,
  0x022BBC115FF, 0x022C8A1164F, 0x022CB41165F, 0x022CDA1167F,
  0x022D74116BF, 0x022D94116CF, 0x022DC8116FF, 0x022E361171C,
  0x022E581172F, 0x022E8E117FF, 0x0230781189F, 0x0231E6118FE,
  0x02320E11908, 0x0232141190B, 0x02322811914, 0x02322E11917,
  0x02326C11936, 0x0232721193A, 0x02328E1194F, 0x0232B41199F,
  0x023350119A9, 0x0233B0119D9, 0x0233CA119FF, 0x02349011A4F,
  0x02354611AAF, 0x0235F211AFF, 0x02361411B5F, 0x0236D011BBF,
  0x0237C411BEF, 0x0237F411BFF, 0x02381211C09, 0x02386E11C37,
  0x02388C11C4F, 0x0238DA11C6F, 0x02392011C91, 0x02395011CA8,
  0x02396E11CFF, 0x023A0E11D07, 0x023A1411D0A, 0x023A6E11D39,
  0x023A7611D3B, 0x023A7C11D3E, 0x023A9011D4F, 0x023AB411D5F,
  0x023ACC11D66, 0x023AD211D69, 0x023B1E11D8F, 0x023B2411D92,
  0x023B3211D9F, 0x023B5411DAF, 0x023BB811DDF, 0x023BD411EDF,
  0x023DF211EFF, 0x023E2211F11, 0x023E7611F3D, 0x023EB611FAF,
  0x023F6211FBF, 0x023FE411FFE, 0x024734123FF, 0x0248DE1246F,
  0x0248EA1247F, 0x024A8812F8F, 0x025FE612FFF, 0x0268601343F,
  0x0268AC1345F, 0x0287F6143FF, 0x028C8E160FF, 0x02C274167FF,
  0x02D47216A3F, 0x02D4BE16A5F, 0x02D4D416A6D, 0x02D57E16ABF,
  0x02D59416ACF, 0x02D5DC16AEF, 0x02D5EC16AFF, 0x02D68C16B4F,
  0x02D6B416B5A, 0x02D6C416B62, 0x02D6F016B7C, 0x02D72016D3F,
  0x02DAF416E3F, 0x02DD3616E9F, 0x02DD7216EBA, 0x02DDA816EFF,
  0x02DE9616F4E, 0x02DF1016F8E, 0x02DF4016FDF, 0x02DFCA16FEF,
  0x02DFEE16FFF, 0x0319AC18CFE, 0x031A3E18D7F, 0x031BE61AFEF,
  0x035FE81AFF4, 0x035FF81AFFC, 0x035FFE1AFFF, 0x0362461B131,
  0x0362661B14F, 0x0362A61B154, 0x0362AC1B163, 0x0362D01B16F,
  0x0365F81BBFF, 0x0378D61BC6F, 0x0378FA1BC7F, 0x0379121BC8F,
  0x0379341BC9B, 0x0379401CBFF, 0x0399FA1CCFF, 0x039D681CEB9,
  0x039DA21CEDF, 0x039DE21CEFF, 0x039E5C1CF2F, 0x039E8E1CF4F,
  0x039F881CFFF, 0x03A1EC1D0FF, 0x03A24E1D128, 0x03A2E61D17A,
  0x03A3D61D1FF, 0x03A48C1D2BF, 0x03A5A81D2DF, 0x03A5E81D2FF,
  0x03A6AE1D35F, 0x03A6F21D3FF, 0x03A8AA1D455, 0x03A93A1D49D,
  0x03A9401D4A1, 0x03A9461D4A4, 0x03A94E1D4A8, 0x03A95A1D4AD,
  0x03A9741D4BA, 0x03A9781D4BC, 0x03A9881D4C4, 0x03AA0C1D506,
  0x03AA161D50C, 0x03AA2A1D515, 0x03AA3A1D51D, 0x03AA741D53A,
  0x03AA7E1D53F, 0x03AA8A1D545, 0x03AA8E1D549, 0x03AAA21D551,
  0x03AD4C1D6A7, 0x03AF981D7CD, 0x03B5181DA9A, 0x03B5401DAA0,
  0x03B5601DEFF, 0x03BE3E1DF24, 0x03BE561DFFF, 0x03C00E1E007,
  0x03C0321E01A, 0x03C0441E022, 0x03C04A1E025, 0x03C0561E02F,
  0x03C0DC1E08E, 0x03C1201E0FF, 0x03C25A1E12F, 0x03C27C1E13F,
  0x03C2941E14D, 0x03C2A01E28F, 0x03C55E1E2BF, 0x03C5F41E2FE,
  0x03C6001E4CF, 0x03C9F41E5CF, 0x03CBF61E5FE, 0x03CC001E6BF,
  0x03CDBE1E6DF, 0x03CDEC1E6FD, 0x03CE001E7DF, 0x03CFCE1E7E7,
  0x03CFD81E7EC, 0x03CFDE1E7EF, 0x03CFFE1E7FF, 0x03D18A1E8C6,
  0x03D1AE1E8FF, 0x03D2981E94F, 0x03D2B41E95D, 0x03D2C01EC70,
  0x03D96A1ED00, 0x03DA7C1EDFF, 0x03DC081EE04, 0x03DC401EE20,
  0x03DC461EE23, 0x03DC4A1EE26, 0x03DC501EE28, 0x03DC661EE33,
  0x03DC701EE38, 0x03DC741EE3A, 0x03DC781EE41, 0x03DC861EE46,
  0x03DC901EE48, 0x03DC941EE4A, 0x03DC981EE4C, 0x03DCA01EE50,
  0x03DCA61EE53, 0x03DCAA1EE56, 0x03DCB01EE58, 0x03DCB41EE5A,
  0x03DCB81EE5C, 0x03DCBC1EE5E, 0x03DCC01EE60, 0x03DCC61EE63,
  0x03DCCA1EE66, 0x03DCD61EE6B, 0x03DCE61EE73, 0x03DCF01EE78,
  0x03DCFA1EE7D, 0x03DCFE1EE7F, 0x03DD141EE8A, 0x03DD381EEA0,
  0x03DD481EEA4, 0x03DD541EEAA, 0x03DD781EEEF, 0x03DDE41EFFF,
  0x03E0581F02F, 0x03E1281F09F, 0x03E15E1F0B0, 0x03E1801F0C0,
  0x03E1A01F0D0, 0x03E1EC1F0FF, 0x03E35C1F1E5, 0x03E4061F20F,
  0x03E4781F23F, 0x03E4921F24F, 0x03E4A41F25F, 0x03E4CC1F2FF,
  0x03EDB21F6DB, 0x03EDDA1F6EF, 0x03EDFA1F6FF, 0x03EFB41F7DF,
  0x03EFD81F7EF, 0x03EFE21F7FF, 0x03F0181F80F, 0x03F0901F84F,
  0x03F0B41F85F, 0x03F1101F88F, 0x03F15C1F8AF, 0x03F1781F8BF,
  0x03F1841F8CF, 0x03F1B21F8FF, 0x03F4B01FA5F, 0x03F4DC1FA6F,
  0x03F4FA1FA7F, 0x03F5161FA8D, 0x03F58E1FAC7, 0x03F5921FACC,
  0x03F5BA1FADE, 0x03F5D61FAEE, 0x03F5F21FAFF, 0x03F7261FB93,
  0x03F7F61FFFF, 0x054DC02A6FF, 0x05703C2B81F, 0x059D5C2CEAF,
  0x05D7C22EBEF, 0x05DCBC2F7FF, 0x05F43C2FFFF, 0x0626963134F,
  0x0668F4E00FF, 0x1C03E10FFFF]

end Lanes.Text
