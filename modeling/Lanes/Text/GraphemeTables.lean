/-!
The classes characters take in telling where one grapheme cluster ends and the next begins.

Each entry is a run of characters of one class: the first character in bits 29 to 49, the last
in bits 8 to 28 and the class in bits 0 to 7, numbered 1 for control characters (line breaks and
the replacement character U+FFFD among them), 2 for extending marks (spacing ones included), 3
for the zero-width joiner, 4 for prepended marks, 5 for regional indicators, 6, 7 and 8 for
leading, vowel and trailing Hangul jamo, and 9 for pictographs. The classes are those of Unicode
15.0. Characters in no run are of no class; Hangul syllables are classed by arithmetic.
The runs are sorted by first character.
-/

set_option maxRecDepth 10000

namespace Lanes.Text

/-- The runs of characters that have a class, each with its class. -/
def graphemeRuns : Array UInt64 := #[
  0x0000000000001F01, 0x0000000FE0009F01, 0x000000152000A909, 0x00000015A000AD01,
  0x00000015C000AE09, 0x0000006000036F02, 0x0000009060048902, 0x000000B22005BD02,
  0x000000B7E005BF02, 0x000000B82005C202, 0x000000B88005C502, 0x000000B8E005C702,
  0x000000C000060504, 0x000000C200061A02, 0x000000C380061C01, 0x000000C960065F02,
  0x000000CE00067002, 0x000000DAC006DC02, 0x000000DBA006DD04, 0x000000DBE006E402,
  0x000000DCE006E802, 0x000000DD4006ED02, 0x000000E1E0070F04, 0x000000E220071102,
  0x000000E600074A02, 0x000000F4C007B002, 0x000000FD6007F302, 0x000000FFA007FD02,
  0x00000102C0081902, 0x0000010360082302, 0x00000104A0082702, 0x0000010520082D02,
  0x0000010B20085B02, 0x0000011200089104, 0x0000011300089F02, 0x000001194008E102,
  0x0000011C4008E204, 0x0000011C60090302, 0x0000012740093C02, 0x00000127C0094F02,
  0x0000012A20095702, 0x0000012C40096302, 0x0000013020098302, 0x000001378009BC02,
  0x00000137C009C402, 0x00000138E009C802, 0x000001396009CD02, 0x0000013AE009D702,
  0x0000013C4009E302, 0x0000013FC009FE02, 0x00000140200A0302, 0x00000147800A3C02,
  0x00000147C00A4202, 0x00000148E00A4802, 0x00000149600A4D02, 0x0000014A200A5102,
  0x0000014E000A7102, 0x0000014EA00A7502, 0x00000150200A8302, 0x00000157800ABC02,
  0x00000157C00AC502, 0x00000158E00AC902, 0x00000159600ACD02, 0x0000015C400AE302,
  0x0000015F400AFF02, 0x00000160200B0302, 0x00000167800B3C02, 0x00000167C00B4402,
  0x00000168E00B4802, 0x00000169600B4D02, 0x0000016AA00B5702, 0x0000016C400B6302,
  0x00000170400B8202, 0x00000177C00BC202, 0x00000178C00BC802, 0x00000179400BCD02,
  0x0000017AE00BD702, 0x00000180000C0402, 0x00000187800C3C02, 0x00000187C00C4402,
  0x00000188C00C4802, 0x00000189400C4D02, 0x0000018AA00C5602, 0x0000018C400C6302,
  0x00000190200C8302, 0x00000197800CBC02, 0x00000197C00CC402, 0x00000198C00CC802,
  0x00000199400CCD02, 0x0000019AA00CD602, 0x0000019C400CE302, 0x0000019E600CF302,
  0x000001A0000D0302, 0x000001A7600D3C02, 0x000001A7C00D4402, 0x000001A8C00D4802,
  0x000001A9400D4D02, 0x000001A9C00D4E04, 0x000001AAE00D5702, 0x000001AC400D6302,
  0x000001B0200D8302, 0x000001B9400DCA02, 0x000001B9E00DD402, 0x000001BAC00DD602,
  0x000001BB000DDF02, 0x000001BE400DF302, 0x000001C6200E3102, 0x000001C6600E3A02,
  0x000001C8E00E4E02, 0x000001D6200EB102, 0x000001D6600EBC02, 0x000001D9000ECE02,
  0x000001E3000F1902, 0x000001E6A00F3502, 0x000001E6E00F3702, 0x000001E7200F3902,
  0x000001E7C00F3F02, 0x000001EE200F8402, 0x000001F0C00F8702, 0x000001F1A00F9702,
  0x000001F3200FBC02, 0x000001F8C00FC602, 0x00000205A0103702, 0x0000020720103E02,
  0x0000020AC0105902, 0x0000020BC0106002, 0x0000020E20107402, 0x0000021040108202,
  0x0000021080108602, 0x00000211A0108D02, 0x00000213A0109D02, 0x0000022000115F06,
  0x0000022C0011A707, 0x000002350011FF08, 0x0000026BA0135F02, 0x000002E240171502,
  0x000002E640173402, 0x000002EA40175302, 0x000002EE40177302, 0x000002F68017D302,
  0x000002FBA017DD02, 0x0000030160180D02, 0x00000301C0180E01, 0x00000301E0180F02,
  0x00000310A0188602, 0x000003152018A902, 0x0000032400192B02, 0x0000032600193B02,
  0x00000342E01A1B02, 0x0000034AA01A5E02, 0x0000034C001A6002, 0x0000034C401A6202,
  0x0000034CA01A7C02, 0x0000034FE01A7F02, 0x00000356001ACE02, 0x00000360001B0402,
  0x00000366801B4402, 0x0000036D601B7302, 0x00000370001B8202, 0x00000374201BAD02,
  0x0000037CC01BF302, 0x00000384801C3702, 0x0000039A001CD202, 0x0000039A801CE802,
  0x0000039DA01CED02, 0x0000039E801CF402, 0x0000039EE01CF902, 0x000003B8001DFF02,
  0x0000040160200B01, 0x0000040180200C02, 0x00000401A0200D03, 0x00000401C0200F01,
  0x0000040500202E01, 0x0000040780203C09, 0x0000040920204909, 0x0000040C00206F01,
  0x0000041A0020F002, 0x0000042440212209, 0x0000042720213909, 0x0000043280219909,
  0x000004352021AA09, 0x0000046340231B09, 0x0000046500232809, 0x0000047100238809,
  0x00000479E023CF09, 0x0000047D2023F309, 0x0000047F0023FA09, 0x000004984024C209,
  0x000004B54025AB09, 0x000004B6C025B609, 0x000004B80025C009, 0x000004BF6025FE09,
  0x000004C000260509, 0x000004C0E0261209, 0x000004C280268509, 0x000004D200270509,
  0x000004E100271209, 0x000004E280271409, 0x000004E2C0271609, 0x000004E3A0271D09,
  0x000004E420272109, 0x000004E500272809, 0x000004E660273409, 0x000004E880274409,
  0x000004E8E0274709, 0x000004E980274C09, 0x000004E9C0274E09, 0x000004EA60275509,
  0x000004EAE0275709, 0x000004EC60276709, 0x000004F2A0279709, 0x000004F42027A109,
  0x000004F60027B009, 0x000004F7E027BF09, 0x0000052680293509, 0x00000560A02B0709,
  0x00000563602B1C09, 0x0000056A002B5009, 0x0000056AA02B5509, 0x0000059DE02CF102,
  0x000005AFE02D7F02, 0x000005BC002DFF02, 0x0000060540302F02, 0x0000060600303009,
  0x00000607A0303D09, 0x0000061320309A02, 0x00000652E0329709, 0x0000065320329909,
  0x000014CDE0A67202, 0x000014CE80A67D02, 0x000014D3C0A69F02, 0x000014DE00A6F102,
  0x0000150040A80202, 0x00001500C0A80602, 0x0000150160A80B02, 0x0000150460A82702,
  0x0000150580A82C02, 0x0000151000A88102, 0x0000151680A8C502, 0x0000151C00A8F102,
  0x0000151FE0A8FF02, 0x00001524C0A92D02, 0x00001528E0A95302, 0x0000152C00A97C06,
  0x0000153000A98302, 0x0000153660A9C002, 0x0000153CA0A9E502, 0x0000154520AA3602,
  0x0000154860AA4302, 0x0000154980AA4D02, 0x0000154F80AA7C02, 0x0000155600AAB002,
  0x0000155640AAB402, 0x00001556E0AAB802, 0x00001557C0AABF02, 0x0000155820AAC102,
  0x0000155D60AAEF02, 0x0000155EA0AAF602, 0x0000157C60ABEA02, 0x0000157D80ABED02,
  0x00001AF600D7C607, 0x00001AF960D7FB08, 0x00001F63C0FB1E02, 0x00001FC000FE0F02,
  0x00001FC400FE2F02, 0x00001FDFE0FEFF01, 0x00001FF3C0FF9F02, 0x00001FFE00FFFB01,
  0x00001FFFA0FFFD01, 0x0000203FA101FD02, 0x0000205C0102E002, 0x0000206EC1037A02,
  0x00002140210A0302, 0x00002140A10A0602, 0x00002141810A0F02, 0x00002147010A3A02,
  0x00002147E10A3F02, 0x0000215CA10AE602, 0x000021A4810D2702, 0x000021D5610EAC02,
  0x000021DFA10EFF02, 0x000021E8C10F5002, 0x000021F0410F8502, 0x0000220001100202,
  0x0000220701104602, 0x0000220E01107002, 0x0000220E61107402, 0x0000220FE1108202,
  0x000022160110BA02, 0x00002217A110BD04, 0x000022184110C202, 0x00002219A110CD04,
  0x0000222001110202, 0x00002224E1113402, 0x00002228A1114602, 0x0000222E61117302,
  0x0000223001118202, 0x000022366111C002, 0x000022384111C304, 0x000022392111CC02,
  0x00002239C111CF02, 0x0000224581123702, 0x00002247C1123E02, 0x0000224821124102,
  0x0000225BE112EA02, 0x0000226001130302, 0x0000226761133C02, 0x00002267C1134402,
  0x00002268E1134802, 0x0000226961134D02, 0x0000226AE1135702, 0x0000226C41136302,
  0x0000226CC1136C02, 0x0000226E01137402, 0x00002286A1144602, 0x0000228BC1145E02,
  0x000022960114C302, 0x000022B5E115B502, 0x000022B70115C002, 0x000022BB8115DD02,
  0x000022C601164002, 0x000022D56116B702, 0x000022E3A1171F02, 0x000022E441172B02,
  0x0000230581183A02, 0x0000232601193502, 0x00002326E1193802, 0x0000232761193E02,
  0x00002327E1193F04, 0x0000232801194002, 0x0000232821194104, 0x0000232841194302,
  0x0000233A2119D702, 0x0000233B4119E002, 0x0000233C8119E402, 0x00002340211A0A02,
  0x00002346611A3902, 0x00002347411A3A04, 0x00002347611A3E02, 0x00002348E11A4702,
  0x0000234A211A5B02, 0x00002350811A8904, 0x00002351411A9902, 0x00002385E11C3602,
  0x00002387011C3F02, 0x00002392411CA702, 0x00002395211CB602, 0x000023A6211D3602,
  0x000023A7411D3A02, 0x000023A7811D3D02, 0x000023A7E11D4502, 0x000023A8C11D4604,
  0x000023A8E11D4702, 0x000023B1411D8E02, 0x000023B2011D9102, 0x000023B2611D9702,
  0x000023DE611EF602, 0x000023E0011F0102, 0x000023E0411F0204, 0x000023E0611F0302,
  0x000023E6811F3A02, 0x000023E7C11F4202, 0x0000268601343F01, 0x0000268801344002,
  0x00002688E1345502, 0x00002D5E016AF402, 0x00002D66016B3602, 0x00002DE9E16F4F02,
  0x00002DEA216F8702, 0x00002DF1E16F9202, 0x00002DFC816FE402, 0x00002DFE016FF102,
  0x00003793A1BC9E02, 0x0000379401BCA301, 0x000039E001CF2D02, 0x000039E601CF4602,
  0x00003A2CA1D16902, 0x00003A2DA1D17202, 0x00003A2E61D17A01, 0x00003A2F61D18202,
  0x00003A30A1D18B02, 0x00003A3541D1AD02, 0x00003A4841D24402, 0x00003B4001DA3602,
  0x00003B4761DA6C02, 0x00003B4EA1DA7502, 0x00003B5081DA8402, 0x00003B5361DA9F02,
  0x00003B5421DAAF02, 0x00003C0001E00602, 0x00003C0101E01802, 0x00003C0361E02102,
  0x00003C0461E02402, 0x00003C04C1E02A02, 0x00003C11E1E08F02, 0x00003C2601E13602,
  0x00003C55C1E2AE02, 0x00003C5D81E2EF02, 0x00003C9D81E4EF02, 0x00003D1A01E8D602,
  0x00003D2881E94A02, 0x00003E0001F0FF09, 0x00003E21A1F10F09, 0x00003E25E1F12F09,
  0x00003E2D81F17109, 0x00003E2FC1F17F09, 0x00003E31C1F18E09, 0x00003E3221F19A09,
  0x00003E35A1F1E509, 0x00003E3CC1F1FF05, 0x00003E4021F20F09, 0x00003E4341F21A09,
  0x00003E45E1F22F09, 0x00003E4641F23A09, 0x00003E4781F23F09, 0x00003E4921F3FA09,
  0x00003E7F61F3FF02, 0x00003E8001F53D09, 0x00003EA8C1F64F09, 0x00003ED001F6FF09,
  0x00003EEE81F77F09, 0x00003EFAA1F7FF09, 0x00003F0181F80F09, 0x00003F0901F84F09,
  0x00003F0B41F85F09, 0x00003F1101F88F09, 0x00003F15C1F8FF09, 0x00003F2181F93A09,
  0x00003F2781F94509, 0x00003F28E1FAFF09, 0x00003F8001FFFD09, 0x0001C0000E001F01,
  0x0001C0040E007F02, 0x0001C0100E00FF01, 0x0001C0200E01EF02, 0x0001C03E0E0FFF01]

end Lanes.Text
