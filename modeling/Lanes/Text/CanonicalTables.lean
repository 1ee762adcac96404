/-!
The character data canonical composition needs: each character's canonical decomposition, the
pairs that compose back into one character, the combining class of every character that has one,
the characters that may join the one before them, the characters that composed text never
holds, and how many non-starters begin and end each character. Hangul syllables are left out,
because they decompose and compose by arithmetic.

Each entry is one 64-bit word whose fields are wide enough for any code point, and each table is
sorted by its leading fields so that it can be searched by halving.
-/

set_option maxRecDepth 10000

namespace Lanes.Text

/-- Canonical decompositions, one level deep: the character in bits 42 to 62, the first
character of its decomposition in bits 21 to 41 and the second in bits 0 to 20, or zero when it
decomposes into one character. Sorted by character. -/
def decompositions : Array UInt64 := #[
  0x0003000008200300, 0x0003040008200301, 0x0003080008200302, 0x00030C0008200303,
  0x0003100008200308, 0x000314000820030A, 0x00031C0008600327, 0x0003200008A00300,
  0x0003240008A00301, 0x0003280008A00302, 0x00032C0008A00308, 0x0003300009200300,
  0x0003340009200301, 0x0003380009200302, 0x00033C0009200308, 0x0003440009C00303,
  0x0003480009E00300, 0x00034C0009E00301, 0x0003500009E00302, 0x0003540009E00303,
  0x0003580009E00308, 0x000364000AA00300, 0x000368000AA00301, 0x00036C000AA00302,
  0x000370000AA00308, 0x000374000B200301, 0x000380000C200300, 0x000384000C200301,
  0x000388000C200302, 0x00038C000C200303, 0x000390000C200308, 0x000394000C20030A,
  0x00039C000C600327, 0x0003A0000CA00300, 0x0003A4000CA00301, 0x0003A8000CA00302,
  0x0003AC000CA00308, 0x0003B0000D200300, 0x0003B4000D200301, 0x0003B8000D200302,
  0x0003BC000D200308, 0x0003C4000DC00303, 0x0003C8000DE00300, 0x0003CC000DE00301,
  0x0003D0000DE00302, 0x0003D4000DE00303, 0x0003D8000DE00308, 0x0003E4000EA00300,
  0x0003E8000EA00301, 0x0003EC000EA00302, 0x0003F0000EA00308, 0x0003F4000F200301,
  0x0003FC000F200308, 0x0004000008200304, 0x000404000C200304, 0x0004080008200306,
  0x00040C000C200306, 0x0004100008200328, 0x000414000C200328, 0x0004180008600301,
  0x00041C000C600301, 0x0004200008600302, 0x000424000C600302, 0x0004280008600307,
  0x00042C000C600307, 0x000430000860030C, 0x000434000C60030C, 0x000438000880030C,
  0x00043C000C80030C, 0x0004480008A00304, 0x00044C000CA00304, 0x0004500008A00306,
  0x000454000CA00306, 0x0004580008A00307, 0x00045C000CA00307, 0x0004600008A00328,
  0x000464000CA00328, 0x0004680008A0030C, 0x00046C000CA0030C, 0x0004700008E00302,
  0x000474000CE00302, 0x0004780008E00306, 0x00047C000CE00306, 0x0004800008E00307,
  0x000484000CE00307, 0x0004880008E00327, 0x00048C000CE00327, 0x0004900009000302,
  0x000494000D000302, 0x0004A00009200303, 0x0004A4000D200303, 0x0004A80009200304,
  0x0004AC000D200304, 0x0004B00009200306, 0x0004B4000D200306, 0x0004B80009200328,
  0x0004BC000D200328, 0x0004C00009200307, 0x0004D00009400302, 0x0004D4000D400302,
  0x0004D80009600327, 0x0004DC000D600327, 0x0004E40009800301, 0x0004E8000D800301,
  0x0004EC0009800327, 0x0004F0000D800327, 0x0004F4000980030C, 0x0004F8000D80030C,
  0x00050C0009C00301, 0x000510000DC00301, 0x0005140009C00327, 0x000518000DC00327,
  0x00051C0009C0030C, 0x000520000DC0030C, 0x0005300009E00304, 0x000534000DE00304,
  0x0005380009E00306, 0x00053C000DE00306, 0x0005400009E0030B, 0x000544000DE0030B,
  0x000550000A400301, 0x000554000E400301, 0x000558000A400327, 0x00055C000E400327,
  0x000560000A40030C, 0x000564000E40030C, 0x000568000A600301, 0x00056C000E600301,
  0x000570000A600302, 0x000574000E600302, 0x000578000A600327, 0x00057C000E600327,
  0x000580000A60030C, 0x000584000E60030C, 0x000588000A800327, 0x00058C000E800327,
  0x000590000A80030C, 0x000594000E80030C, 0x0005A0000AA00303, 0x0005A4000EA00303,
  0x0005A8000AA00304, 0x0005AC000EA00304, 0x0005B0000AA00306, 0x0005B4000EA00306,
  0x0005B8000AA0030A, 0x0005BC000EA0030A, 0x0005C0000AA0030B, 0x0005C4000EA0030B,
  0x0005C8000AA00328, 0x0005CC000EA00328, 0x0005D0000AE00302, 0x0005D4000EE00302,
  0x0005D8000B200302, 0x0005DC000F200302, 0x0005E0000B200308, 0x0005E4000B400301,
  0x0005E8000F400301, 0x0005EC000B400307, 0x0005F0000F400307, 0x0005F4000B40030C,
  0x0005F8000F40030C, 0x0006800009E0031B, 0x000684000DE0031B, 0x0006BC000AA0031B,
  0x0006C0000EA0031B, 0x000734000820030C, 0x000738000C20030C, 0x00073C000920030C,
  0x000740000D20030C, 0x0007440009E0030C, 0x000748000DE0030C, 0x00074C000AA0030C,
  0x000750000EA0030C, 0x000754001B800304, 0x000758001F800304, 0x00075C001B800301,
  0x000760001F800301, 0x000764001B80030C, 0x000768001F80030C, 0x00076C001B800300,
  0x000770001F800300, 0x0007780018800304, 0x00077C001C800304, 0x0007800044C00304,
  0x0007840044E00304, 0x0007880018C00304, 0x00078C001CC00304, 0x0007980008E0030C,
  0x00079C000CE0030C, 0x0007A0000960030C, 0x0007A4000D60030C, 0x0007A80009E00328,
  0x0007AC000DE00328, 0x0007B0003D400304, 0x0007B4003D600304, 0x0007B80036E0030C,
  0x0007BC005240030C, 0x0007C0000D40030C, 0x0007D00008E00301, 0x0007D4000CE00301,
  0x0007E00009C00300, 0x0007E4000DC00300, 0x0007E80018A00301, 0x0007EC001CA00301,
  0x0007F00018C00301, 0x0007F4001CC00301, 0x0007F8001B000301, 0x0007FC001F000301,
  0x000800000820030F, 0x000804000C20030F, 0x0008080008200311, 0x00080C000C200311,
  0x0008100008A0030F, 0x000814000CA0030F, 0x0008180008A00311, 0x00081C000CA00311,
  0x000820000920030F, 0x000824000D20030F, 0x0008280009200311, 0x00082C000D200311,
  0x0008300009E0030F, 0x000834000DE0030F, 0x0008380009E00311, 0x00083C000DE00311,
  0x000840000A40030F, 0x000844000E40030F, 0x000848000A400311, 0x00084C000E400311,
  0x000850000AA0030F, 0x000854000EA0030F, 0x000858000AA00311, 0x00085C000EA00311,
  0x000860000A600326, 0x000864000E600326, 0x000868000A800326, 0x00086C000E800326,
  0x000878000900030C, 0x00087C000D00030C, 0x0008980008200307, 0x00089C000C200307,
  0x0008A00008A00327, 0x0008A4000CA00327, 0x0008A8001AC00304, 0x0008AC001EC00304,
  0x0008B0001AA00304, 0x0008B4001EA00304, 0x0008B80009E00307, 0x0008BC000DE00307,
  0x0008C00045C00304, 0x0008C40045E00304, 0x0008C8000B200304, 0x0008CC000F200304,
  0x000D000060000000, 0x000D040060200000, 0x000D0C0062600000, 0x000D100061000301,
  0x000DD00057200000, 0x000DF80007600000, 0x000E140015000301, 0x000E180072200301,
  0x000E1C0016E00000, 0x000E200072A00301, 0x000E240072E00301, 0x000E280073200301,
  0x000E300073E00301, 0x000E380074A00301, 0x000E3C0075200301, 0x000E400079400301,
  0x000EA80073200308, 0x000EAC0074A00308, 0x000EB00076200301, 0x000EB40076A00301,
  0x000EB80076E00301, 0x000EBC0077200301, 0x000EC00079600301, 0x000F280077200308,
  0x000F2C0078A00308, 0x000F300077E00301, 0x000F340078A00301, 0x000F380079200301,
  0x000F4C007A400301, 0x000F50007A400308, 0x0010000082A00300, 0x0010040082A00308,
  0x00100C0082600301, 0x00101C0080C00308, 0x0010300083400301, 0x0010340083000300,
  0x0010380084600306, 0x0010640083000306, 0x0010E40087000306, 0x0011400086A00300,
  0x0011440086A00308, 0x00114C0086600301, 0x00115C008AC00308, 0x0011700087400301,
  0x0011740087000300, 0x0011780088600306, 0x0011D8008E80030F, 0x0011DC008EA0030F,
  0x0013040082C00306, 0x0013080086C00306, 0x0013400082000306, 0x0013440086000306,
  0x0013480082000308, 0x00134C0086000308, 0x0013580082A00306, 0x00135C0086A00306,
  0x001368009B000308, 0x00136C009B200308, 0x0013700082C00308, 0x0013740086C00308,
  0x0013780082E00308, 0x00137C0086E00308, 0x0013880083000304, 0x00138C0087000304,
  0x0013900083000308, 0x0013940087000308, 0x0013980083C00308, 0x00139C0087C00308,
  0x0013A8009D000308, 0x0013AC009D200308, 0x0013B00085A00308, 0x0013B40089A00308,
  0x0013B80084600304, 0x0013BC0088600304, 0x0013C00084600308, 0x0013C40088600308,
  0x0013C8008460030B, 0x0013CC008860030B, 0x0013D00084E00308, 0x0013D40088E00308,
  0x0013E00085600308, 0x0013E40089600308, 0x00188800C4E00653, 0x00188C00C4E00654,
  0x00189000C9000654, 0x00189400C4E00655, 0x00189800C9400654, 0x001B0000DAA00654,
  0x001B0800D8200654, 0x001B4C00DA400654, 0x0024A4012500093C, 0x0024C4012600093C,
  0x0024D0012660093C, 0x0025600122A0093C, 0x0025640122C0093C, 0x0025680122E0093C,
  0x00256C012380093C, 0x002570012420093C, 0x002574012440093C, 0x002578012560093C,
  0x00257C0125E0093C, 0x00272C0138E009BE, 0x0027300138E009D7, 0x00277001342009BC,
  0x00277401344009BC, 0x00277C0135E009BC, 0x0028CC0146400A3C, 0x0028D80147000A3C,
  0x0029640142C00A3C, 0x0029680142E00A3C, 0x00296C0143800A3C, 0x0029780145600A3C,
  0x002D200168E00B56, 0x002D2C0168E00B3E, 0x002D300168E00B57, 0x002D700164200B3C,
  0x002D740164400B3C, 0x002E500172400BD7, 0x002F280178C00BBE, 0x002F2C0178E00BBE,
  0x002F300178C00BD7, 0x0031200188C00C56, 0x0033000197E00CD5, 0x00331C0198C00CD5,
  0x0033200198C00CD6, 0x0033280198C00CC2, 0x00332C0199400CD5, 0x00352801A8C00D3E,
  0x00352C01A8E00D3E, 0x00353001A8C00D57, 0x00376801BB200DCA, 0x00377001BB200DCF,
  0x00377401BB800DCA, 0x00377801BB200DDF, 0x003D0C01E8400FB7, 0x003D3401E9800FB7,
  0x003D4801EA200FB7, 0x003D5C01EAC00FB7, 0x003D7001EB600FB7, 0x003DA401E8000FB5,
  0x003DCC01EE200F72, 0x003DD401EE200F74, 0x003DD801F6400F80, 0x003DE001F6600F80,
  0x003E0401EE200F80, 0x003E4C01F2400FB7, 0x003E7401F3800FB7, 0x003E8801F4200FB7,
  0x003E9C01F4C00FB7, 0x003EB001F5600FB7, 0x003EE401F2000FB5, 0x0040980204A0102E,
  0x006C180360A01B35, 0x006C200360E01B35, 0x006C280361201B35, 0x006C300361601B35,
  0x006C380361A01B35, 0x006C480362201B35, 0x006CEC0367401B35, 0x006CF40367801B35,
  0x006D000367C01B35, 0x006D040367E01B35, 0x006D0C0368401B35, 0x0078000008200325,
  0x007804000C200325, 0x0078080008400307, 0x00780C000C400307, 0x0078100008400323,
  0x007814000C400323, 0x0078180008400331, 0x00781C000C400331, 0x0078200018E00301,
  0x007824001CE00301, 0x0078280008800307, 0x00782C000C800307, 0x0078300008800323,
  0x007834000C800323, 0x0078380008800331, 0x00783C000C800331, 0x0078400008800327,
  0x007844000C800327, 0x007848000880032D, 0x00784C000C80032D, 0x0078500022400300,
  0x0078540022600300, 0x0078580022400301, 0x00785C0022600301, 0x0078600008A0032D,
  0x007864000CA0032D, 0x0078680008A00330, 0x00786C000CA00330, 0x0078700045000306,
  0x0078740045200306, 0x0078780008C00307, 0x00787C000CC00307, 0x0078800008E00304,
  0x007884000CE00304, 0x0078880009000307, 0x00788C000D000307, 0x0078900009000323,
  0x007894000D000323, 0x0078980009000308, 0x00789C000D000308, 0x0078A00009000327,
  0x0078A4000D000327, 0x0078A8000900032E, 0x0078AC000D00032E, 0x0078B00009200330,
  0x0078B4000D200330, 0x0078B80019E00301, 0x0078BC001DE00301, 0x0078C00009600301,
  0x0078C4000D600301, 0x0078C80009600323, 0x0078CC000D600323, 0x0078D00009600331,
  0x0078D4000D600331, 0x0078D80009800323, 0x0078DC000D800323, 0x0078E003C6C00304,
  0x0078E403C6E00304, 0x0078E80009800331, 0x0078EC000D800331, 0x0078F0000980032D,
  0x0078F4000D80032D, 0x0078F80009A00301, 0x0078FC000DA00301, 0x0079000009A00307,
  0x007904000DA00307, 0x0079080009A00323, 0x00790C000DA00323, 0x0079100009C00307,
  0x007914000DC00307, 0x0079180009C00323, 0x00791C000DC00323, 0x0079200009C00331,
  0x007924000DC00331, 0x0079280009C0032D, 0x00792C000DC0032D, 0x007930001AA00301,
  0x007934001EA00301, 0x007938001AA00308, 0x00793C001EA00308, 0x0079400029800300,
  0x0079440029A00300, 0x0079480029800301, 0x00794C0029A00301, 0x007950000A000301,
  0x007954000E000301, 0x007958000A000307, 0x00795C000E000307, 0x007960000A400307,
  0x007964000E400307, 0x007968000A400323, 0x00796C000E400323, 0x00797003CB400304,
  0x00797403CB600304, 0x007978000A400331, 0x00797C000E400331, 0x007980000A600307,
  0x007984000E600307, 0x007988000A600323, 0x00798C000E600323, 0x007990002B400307,
  0x007994002B600307, 0x007998002C000307, 0x00799C002C200307, 0x0079A003CC400307,
  0x0079A403CC600307, 0x0079A8000A800307, 0x0079AC000E800307, 0x0079B0000A800323,
  0x0079B4000E800323, 0x0079B8000A800331, 0x0079BC000E800331, 0x0079C0000A80032D,
  0x0079C4000E80032D, 0x0079C8000AA00324, 0x0079CC000EA00324, 0x0079D0000AA00330,
  0x0079D4000EA00330, 0x0079D8000AA0032D, 0x0079DC000EA0032D, 0x0079E0002D000301,
  0x0079E4002D200301, 0x0079E8002D400308, 0x0079EC002D600308, 0x0079F0000AC00303,
  0x0079F4000EC00303, 0x0079F8000AC00323, 0x0079FC000EC00323, 0x007A00000AE00300,
  0x007A04000EE00300, 0x007A08000AE00301, 0x007A0C000EE00301, 0x007A10000AE00308,
  0x007A14000EE00308, 0x007A18000AE00307, 0x007A1C000EE00307, 0x007A20000AE00323,
  0x007A24000EE00323, 0x007A28000B000307, 0x007A2C000F000307, 0x007A30000B000308,
  0x007A34000F000308, 0x007A38000B200307, 0x007A3C000F200307, 0x007A40000B400302,
  0x007A44000F400302, 0x007A48000B400323, 0x007A4C000F400323, 0x007A50000B400331,
  0x007A54000F400331, 0x007A58000D000331, 0x007A5C000E800308, 0x007A60000EE0030A,
  0x007A64000F20030A, 0x007A6C002FE00307, 0x007A800008200323, 0x007A84000C200323,
  0x007A880008200309, 0x007A8C000C200309, 0x007A900018400301, 0x007A94001C400301,
  0x007A980018400300, 0x007A9C001C400300, 0x007AA00018400309, 0x007AA4001C400309,
  0x007AA80018400303, 0x007AAC001C400303, 0x007AB003D4000302, 0x007AB403D4200302,
  0x007AB80020400301, 0x007ABC0020600301, 0x007AC00020400300, 0x007AC40020600300,
  0x007AC80020400309, 0x007ACC0020600309, 0x007AD00020400303, 0x007AD40020600303,
  0x007AD803D4000306, 0x007ADC03D4200306, 0x007AE00008A00323, 0x007AE4000CA00323,
  0x007AE80008A00309, 0x007AEC000CA00309, 0x007AF00008A00303, 0x007AF4000CA00303,
  0x007AF80019400301, 0x007AFC001D400301, 0x007B000019400300, 0x007B04001D400300,
  0x007B080019400309, 0x007B0C001D400309, 0x007B100019400303, 0x007B14001D400303,
  0x007B1803D7000302, 0x007B1C03D7200302, 0x007B200009200309, 0x007B24000D200309,
  0x007B280009200323, 0x007B2C000D200323, 0x007B300009E00323, 0x007B34000DE00323,
  0x007B380009E00309, 0x007B3C000DE00309, 0x007B40001A800301, 0x007B44001E800301,
  0x007B48001A800300, 0x007B4C001E800300, 0x007B50001A800309, 0x007B54001E800309,
  0x007B58001A800303, 0x007B5C001E800303, 0x007B6003D9800302, 0x007B6403D9A00302,
  0x007B680034000301, 0x007B6C0034200301, 0x007B700034000300, 0x007B740034200300,
  0x007B780034000309, 0x007B7C0034200309, 0x007B800034000303, 0x007B840034200303,
  0x007B880034000323, 0x007B8C0034200323, 0x007B90000AA00323, 0x007B94000EA00323,
  0x007B98000AA00309, 0x007B9C000EA00309, 0x007BA00035E00301, 0x007BA40036000301,
  0x007BA80035E00300, 0x007BAC0036000300, 0x007BB00035E00309, 0x007BB40036000309,
  0x007BB80035E00303, 0x007BBC0036000303, 0x007BC00035E00323, 0x007BC40036000323,
  0x007BC8000B200300, 0x007BCC000F200300, 0x007BD0000B200323, 0x007BD4000F200323,
  0x007BD8000B200309, 0x007BDC000F200309, 0x007BE0000B200303, 0x007BE4000F200303,
  0x007C000076200313, 0x007C040076200314, 0x007C0803E0000300, 0x007C0C03E0200300,
  0x007C1003E0000301, 0x007C1403E0200301, 0x007C1803E0000342, 0x007C1C03E0200342,
  0x007C200072200313, 0x007C240072200314, 0x007C2803E1000300, 0x007C2C03E1200300,
  0x007C3003E1000301, 0x007C3403E1200301, 0x007C3803E1000342, 0x007C3C03E1200342,
  0x007C400076A00313, 0x007C440076A00314, 0x007C4803E2000300, 0x007C4C03E2200300,
  0x007C5003E2000301, 0x007C5403E2200301, 0x007C600072A00313, 0x007C640072A00314,
  0x007C6803E3000300, 0x007C6C03E3200300, 0x007C7003E3000301, 0x007C7403E3200301,
  0x007C800076E00313, 0x007C840076E00314, 0x007C8803E4000300, 0x007C8C03E4200300,
  0x007C9003E4000301, 0x007C9403E4200301, 0x007C9803E4000342, 0x007C9C03E4200342,
  0x007CA00072E00313, 0x007CA40072E00314, 0x007CA803E5000300, 0x007CAC03E5200300,
  0x007CB003E5000301, 0x007CB403E5200301, 0x007CB803E5000342, 0x007CBC03E5200342,
  0x007CC00077200313, 0x007CC40077200314, 0x007CC803E6000300, 0x007CCC03E6200300,
  0x007CD003E6000301, 0x007CD403E6200301, 0x007CD803E6000342, 0x007CDC03E6200342,
  0x007CE00073200313, 0x007CE40073200314, 0x007CE803E7000300, 0x007CEC03E7200300,
  0x007CF003E7000301, 0x007CF403E7200301, 0x007CF803E7000342, 0x007CFC03E7200342,
  0x007D000077E00313, 0x007D040077E00314, 0x007D0803E8000300, 0x007D0C03E8200300,
  0x007D1003E8000301, 0x007D1403E8200301, 0x007D200073E00313, 0x007D240073E00314,
  0x007D2803E9000300, 0x007D2C03E9200300, 0x007D3003E9000301, 0x007D3403E9200301,
  0x007D400078A00313, 0x007D440078A00314, 0x007D4803EA000300, 0x007D4C03EA200300,
  0x007D5003EA000301, 0x007D5403EA200301, 0x007D5803EA000342, 0x007D5C03EA200342,
  0x007D640074A00314, 0x007D6C03EB200300, 0x007D7403EB200301, 0x007D7C03EB200342,
  0x007D800079200313, 0x007D840079200314, 0x007D8803EC000300, 0x007D8C03EC200300,
  0x007D9003EC000301, 0x007D9403EC200301, 0x007D9803EC000342, 0x007D9C03EC200342,
  0x007DA00075200313, 0x007DA40075200314, 0x007DA803ED000300, 0x007DAC03ED200300,
  0x007DB003ED000301, 0x007DB403ED200301, 0x007DB803ED000342, 0x007DBC03ED200342,
  0x007DC00076200300, 0x007DC40075800000, 0x007DC80076A00300, 0x007DCC0075A00000,
  0x007DD00076E00300, 0x007DD40075C00000, 0x007DD80077200300, 0x007DDC0075E00000,
  0x007DE00077E00300, 0x007DE40079800000, 0x007DE80078A00300, 0x007DEC0079A00000,
  0x007DF00079200300, 0x007DF40079C00000, 0x007E0003E0000345, 0x007E0403E0200345,
  0x007E0803E0400345, 0x007E0C03E0600345, 0x007E1003E0800345, 0x007E1403E0A00345,
  0x007E1803E0C00345, 0x007E1C03E0E00345, 0x007E2003E1000345, 0x007E2403E1200345,
  0x007E2803E1400345, 0x007E2C03E1600345, 0x007E3003E1800345, 0x007E3403E1A00345,
  0x007E3803E1C00345, 0x007E3C03E1E00345, 0x007E4003E4000345, 0x007E4403E4200345,
  0x007E4803E4400345, 0x007E4C03E4600345, 0x007E5003E4800345, 0x007E5403E4A00345,
  0x007E5803E4C00345, 0x007E5C03E4E00345, 0x007E6003E5000345, 0x007E6403E5200345,
  0x007E6803E5400345, 0x007E6C03E5600345, 0x007E7003E5800345, 0x007E7403E5A00345,
  0x007E7803E5C00345, 0x007E7C03E5E00345, 0x007E8003EC000345, 0x007E8403EC200345,
  0x007E8803EC400345, 0x007E8C03EC600345, 0x007E9003EC800345, 0x007E9403ECA00345,
  0x007E9803ECC00345, 0x007E9C03ECE00345, 0x007EA003ED000345, 0x007EA403ED200345,
  0x007EA803ED400345, 0x007EAC03ED600345, 0x007EB003ED800345, 0x007EB403EDA00345,
  0x007EB803EDC00345, 0x007EBC03EDE00345, 0x007EC00076200306, 0x007EC40076200304,
  0x007EC803EE000345, 0x007ECC0076200345, 0x007ED00075800345, 0x007ED80076200342,
  0x007EDC03F6C00345, 0x007EE00072200306, 0x007EE40072200304, 0x007EE80072200300,
  0x007EEC0070C00000, 0x007EF00072200345, 0x007EF80077200000, 0x007F040015000342,
  0x007F0803EE800345, 0x007F0C0076E00345, 0x007F100075C00345, 0x007F180076E00342,
  0x007F1C03F8C00345, 0x007F200072A00300, 0x007F240071000000, 0x007F280072E00300,
  0x007F2C0071200000, 0x007F300072E00345, 0x007F3403F7E00300, 0x007F3803F7E00301,
  0x007F3C03F7E00342, 0x007F400077200306, 0x007F440077200304, 0x007F480079400300,
  0x007F4C0072000000, 0x007F580077200342, 0x007F5C0079400342, 0x007F600073200306,
  0x007F640073200304, 0x007F680073200300, 0x007F6C0071400000, 0x007F7403FFC00300,
  0x007F7803FFC00301, 0x007F7C03FFC00342, 0x007F800078A00306, 0x007F840078A00304,
  0x007F880079600300, 0x007F8C0076000000, 0x007F900078200313, 0x007F940078200314,
  0x007F980078A00342, 0x007F9C0079600342, 0x007FA00074A00306, 0x007FA40074A00304,
  0x007FA80074A00300, 0x007FAC0071C00000, 0x007FB00074200314, 0x007FB40015000300,
  0x007FB80070A00000, 0x007FBC000C000000, 0x007FC803EF800345, 0x007FCC0079200345,
  0x007FD00079C00345, 0x007FD80079200342, 0x007FDC03FEC00345, 0x007FE00073E00300,
  0x007FE40071800000, 0x007FE80075200300, 0x007FEC0071E00000, 0x007FF00075200345,
  0x007FF40016800000, 0x0080000400400000, 0x0080040400600000, 0x0084980075200000,
  0x0084A80009600000, 0x0084AC0018A00000, 0x0086680432000338, 0x00866C0432400338,
  0x0086B80432800338, 0x008734043A000338, 0x008738043A800338, 0x00873C043A400338,
  0x0088100440600338, 0x0088240441000338, 0x0088300441600338, 0x0088900444600338,
  0x0088980444A00338, 0x0089040447800338, 0x0089100448600338, 0x00891C0448A00338,
  0x0089240449000338, 0x0089800007A00338, 0x008988044C200338, 0x0089B40449A00338,
  0x0089B80007800338, 0x0089BC0007C00338, 0x0089C0044C800338, 0x0089C4044CA00338,
  0x0089D0044E400338, 0x0089D4044E600338, 0x0089E0044EC00338, 0x0089E4044EE00338,
  0x008A00044F400338, 0x008A04044F600338, 0x008A100450400338, 0x008A140450600338,
  0x008A200450C00338, 0x008A240450E00338, 0x008AB00454400338, 0x008AB40455000338,
  0x008AB80455200338, 0x008ABC0455600338, 0x008B80044F800338, 0x008B84044FA00338,
  0x008B880452200338, 0x008B8C0452400338, 0x008BA80456400338, 0x008BAC0456600338,
  0x008BB00456800338, 0x008BB40456A00338, 0x008CA40601000000, 0x008CA80601200000,
  0x00AB70055BA00338, 0x00C1300609603099, 0x00C1380609A03099, 0x00C1400609E03099,
  0x00C148060A203099, 0x00C150060A603099, 0x00C158060AA03099, 0x00C160060AE03099,
  0x00C168060B203099, 0x00C170060B603099, 0x00C178060BA03099, 0x00C180060BE03099,
  0x00C188060C203099, 0x00C194060C803099, 0x00C19C060CC03099, 0x00C1A4060D003099,
  0x00C1C0060DE03099, 0x00C1C4060DE0309A, 0x00C1CC060E403099, 0x00C1D0060E40309A,
  0x00C1D8060EA03099, 0x00C1DC060EA0309A, 0x00C1E4060F003099, 0x00C1E8060F00309A,
  0x00C1F0060F603099, 0x00C1F4060F60309A, 0x00C2500608C03099, 0x00C2780613A03099,
  0x00C2B00615603099, 0x00C2B80615A03099, 0x00C2C00615E03099, 0x00C2C80616203099,
  0x00C2D00616603099, 0x00C2D80616A03099, 0x00C2E00616E03099, 0x00C2E80617203099,
  0x00C2F00617603099, 0x00C2F80617A03099, 0x00C3000617E03099, 0x00C3080618203099,
  0x00C3140618803099, 0x00C31C0618C03099, 0x00C3240619003099, 0x00C3400619E03099,
  0x00C3440619E0309A, 0x00C34C061A403099, 0x00C350061A40309A, 0x00C358061AA03099,
  0x00C35C061AA0309A, 0x00C364061B003099, 0x00C368061B00309A, 0x00C370061B603099,
  0x00C374061B60309A, 0x00C3D00614C03099, 0x00C3DC061DE03099, 0x00C3E0061E003099,
  0x00C3E4061E203099, 0x00C3E8061E403099, 0x00C3F8061FA03099, 0x03E4001189000000,
  0x03E4040CDE800000, 0x03E40811D9400000, 0x03E40C1199000000, 0x03E4100DDA200000,
  0x03E41409C6400000, 0x03E4180A7CA00000, 0x03E41C13F3800000, 0x03E42013F3800000,
  0x03E4240B2A200000, 0x03E428123A200000, 0x03E42C0AB0E00000, 0x03E4300B29000000,
  0x03E4340C3EC00000, 0x03E4380ECD200000, 0x03E43C0FF0A00000, 0x03E44010C7E00000,
  0x03E44410F7400000, 0x03E448111F000000, 0x03E44C1211E00000, 0x03E4500D40400000,
  0x03E4540DA3600000, 0x03E4580E1B200000, 0x03E45C0E7BC00000, 0x03E4601087A00000,
  0x03E464122D400000, 0x03E468133E200000, 0x03E46C09D0400000, 0x03E4700A6EA00000,
  0x03E4740D60800000, 0x03E4780E43600000, 0x03E47C10C5A00000, 0x03E48013C3C00000,
  0x03E4840BAA000000, 0x03E4880DFD600000, 0x03E48C10B9A00000, 0x03E490112C800000,
  0x03E4940C59200000, 0x03E498103B000000, 0x03E49C1103E00000, 0x03E4A00BD9400000,
  0x03E4A40CE2E00000, 0x03E4A80DAD400000, 0x03E4AC0E5F800000, 0x03E4B01219C00000,
  0x03E4B409F0C00000, 0x03E4B80A36E00000, 0x03E4BC0A5BC00000, 0x03E4C00C98800000,
  0x03E4C40D5A600000, 0x03E4C80E42000000, 0x03E4CC0EDCE00000, 0x03E4D01000200000,
  0x03E4D410C0C00000, 0x03E4D810CB800000, 0x03E4DC11BDE00000, 0x03E4E012E6400000,
  0x03E4E4136DE00000, 0x03E4E813BF400000, 0x03E4EC0F11800000, 0x03E4F00F2FE00000,
  0x03E4F40FB4000000, 0x03E4F81079200000, 0x03E4FC1260800000, 0x03E50013CFE00000,
  0x03E504115AC00000, 0x03E5080B1BE00000, 0x03E50C0BE0800000, 0x03E5100F8C000000,
  0x03E514100FC00000, 0x03E5180E4C400000, 0x03E51C0F19400000, 0x03E5201198400000,
  0x03E52412DEE00000, 0x03E5280B1B000000, 0x03E52C0B8C400000, 0x03E5300D42600000,
  0x03E5340DBB400000, 0x03E5380DE1E00000, 0x03E53C0FA5E00000, 0x03E5400FC6E00000,
  0x03E54412C9600000, 0x03E5480A5A400000, 0x03E54C1011600000, 0x03E5500A3B800000,
  0x03E5540A39800000, 0x03E5580F43800000, 0x03E55C0FB7C00000, 0x03E560107E200000,
  0x03E56412CEA00000, 0x03E5681170000000, 0x03E56C0C59E00000, 0x03E5700D40400000,
  0x03E574115FC00000, 0x03E57809C7200000, 0x03E57C0B7CE00000, 0x03E5800C02400000,
  0x03E5840E70E00000, 0x03E5880EAE000000, 0x03E58C0A62E00000, 0x03E5900F1F600000,
  0x03E59409F7E00000, 0x03E5980BF5200000, 0x03E59C09C1A00000, 0x03E5A00D99800000,
  0x03E5A40CAF000000, 0x03E5A80FA4400000, 0x03E5AC0A78600000, 0x03E5B00B0BC00000,
  0x03E5B40EE0200000, 0x03E5B81089200000, 0x03E5BC1155400000, 0x03E5C00D77400000,
  0x03E5C411F6000000, 0x03E5C80D91000000, 0x03E5CC0C5FC00000, 0x03E5D0105CA00000,
  0x03E5D40C74000000, 0x03E5D80EACA00000, 0x03E5DC09D5C00000, 0x03E5E00A2D200000,
  0x03E5E40A39200000, 0x03E5E80D10200000, 0x03E5EC0F9CE00000, 0x03E5F0104DE00000,
  0x03E5F4115A400000, 0x03E5F81239E00000, 0x03E5FC0A5EA00000, 0x03E6000A88400000,
  0x03E6040B2E600000, 0x03E6080BDD800000, 0x03E60C0CB8A00000, 0x03E6100DFFC00000,
  0x03E6140F25400000, 0x03E61812B5A00000, 0x03E61C134D400000, 0x03E62013D2E00000,
  0x03E62413D9C00000, 0x03E6280A53600000, 0x03E62C0CD8C00000, 0x03E6300D6EE00000,
  0x03E63411EC400000, 0x03E6380BCE800000, 0x03E63C0C32000000, 0x03E6400C40000000,
  0x03E6440C93400000, 0x03E6480DE4600000, 0x03E64C0E29200000, 0x03E6500E91200000,
  0x03E6540F39400000, 0x03E6580FBE800000, 0x03E65C100DE00000, 0x03E66011E4C00000,
  0x03E664109DC00000, 0x03E6681204600000, 0x03E66C1269400000, 0x03E6700A42E00000,
  0x03E6740A54600000, 0x03E6780A97A00000, 0x03E67C0E19000000, 0x03E6801118400000,
  0x03E6841155400000, 0x03E6880BD9200000, 0x03E68C0BFEA00000, 0x03E6900C6F600000,
  0x03E6940D75C00000, 0x03E6980F87C00000, 0x03E69C0E6EA00000, 0x03E6A009DC800000,
  0x03E6A40ADF200000, 0x03E6A80B7CE00000, 0x03E6AC0BB7400000, 0x03E6B00C03800000,
  0x03E6B40E76400000, 0x03E6B80E8D200000, 0x03E6BC0FF3400000, 0x03E6C01008C00000,
  0x03E6C41246800000, 0x03E6C812DEC00000, 0x03E6CC12E9000000, 0x03E6D01303000000,
  0x03E6D409F1600000, 0x03E6D80F35C00000, 0x03E6DC1236800000, 0x03E6E012D7000000,
  0x03E6E40C1C200000, 0x03E6E809D0C00000, 0x03E6EC0A1B400000, 0x03E6F00B7DC00000,
  0x03E6F40B87E00000, 0x03E6F80CB3200000, 0x03E6FC0D40400000, 0x03E7000E39C00000,
  0x03E7040EC8400000, 0x03E708109F800000, 0x03E70C120F800000, 0x03E71013F1A00000,
  0x03E7140CD1000000, 0x03E71812C5C00000, 0x03E71C0A51200000, 0x03E7200CEF600000,
  0x03E7240CFE600000, 0x03E7280DA8200000, 0x03E72C0DD3800000, 0x03E7300E81200000,
  0x03E7340EAB200000, 0x03E7380F0D600000, 0x03E73C0FA2000000, 0x03E740130BC00000,
  0x03E7440A2DA00000, 0x03E7480C45C00000, 0x03E74C12CF000000, 0x03E7500A05600000,
  0x03E7540BA3200000, 0x03E7580DBD400000, 0x03E75C11E5400000, 0x03E7600BF1600000,
  0x03E7640C28800000, 0x03E7680D02E00000, 0x03E76C0E70E00000, 0x03E77012D0C00000,
  0x03E7740A45200000, 0x03E7780A81E00000, 0x03E77C0B8CA00000, 0x03E7800CC2600000,
  0x03E7840CE9C00000, 0x03E7880D15000000, 0x03E78C0D9CA00000, 0x03E7900E80C00000,
  0x03E7940EBC400000, 0x03E7980FEF200000, 0x03E79C1119E00000, 0x03E7A0111C200000,
  0x03E7A41239800000, 0x03E7A812DC400000, 0x03E7AC0A67E00000, 0x03E7B00DD7400000,
  0x03E7B40A83A00000, 0x03E7B80E3A000000, 0x03E7BC0E93000000, 0x03E7C010BF400000,
  0x03E7C412D4600000, 0x03E7C8138AE00000, 0x03E7CC13D3E00000, 0x03E7D00CF2E00000,
  0x03E7D40DB9600000, 0x03E7D8103D000000, 0x03E7DC0F59600000, 0x03E7E00F64000000,
  0x03E7E40F92400000, 0x03E7E80E58000000, 0x03E7EC0E13200000, 0x03E7F0116B000000,
  0x03E7F409D8000000, 0x03E7F81066C00000, 0x03E7FC0A47400000, 0x03E8000A40E00000,
  0x03E8040BD4C00000, 0x03E8080C5A600000, 0x03E80C0F9AC00000, 0x03E8100B70A00000,
  0x03E8140DA3C00000, 0x03E8180CD6800000, 0x03E81C11E7600000, 0x03E8201109800000,
  0x03E82412C9A00000, 0x03E8281131600000, 0x03E82C0BDA600000, 0x03E8300A28000000,
  0x03E8340AB8000000, 0x03E8400B0B400000, 0x03E8480CCE800000, 0x03E8540A3BC00000,
  0x03E8580E65400000, 0x03E85C0ED9400000, 0x03E8600F27800000, 0x03E8640F2BC00000,
  0x03E8680F2CA00000, 0x03E86C0F31E00000, 0x03E87012EAC00000, 0x03E8740F97C00000,
  0x03E8780FF7A00000, 0x03E88010C2400000, 0x03E888115F000000, 0x03E8941207000000,
  0x03E898121FA00000, 0x03E8A8131DE00000, 0x03E8AC131F800000, 0x03E8B01325000000,
  0x03E8B413B6800000, 0x03E8B8121BC00000, 0x03E8BC12D6E00000, 0x03E8C009F5C00000,
  0x03E8C40A1CE00000, 0x03E8C80A29A00000, 0x03E8CC0A59200000, 0x03E8D00A5C800000,
  0x03E8D40A6A200000, 0x03E8D80AB3A00000, 0x03E8DC0AC0C00000, 0x03E8E00ACD000000,
  0x03E8E40B08000000, 0x03E8E80B15000000, 0x03E8EC0B8C800000, 0x03E8F00B8DC00000,
  0x03E8F40C12800000, 0x03E8F80C2D000000, 0x03E8FC0C31C00000, 0x03E9000C3E400000,
  0x03E9040CA9E00000, 0x03E9080CBC400000, 0x03E90C0CD2200000, 0x03E9100D10A00000,
  0x03E9140DAEE00000, 0x03E9180DC3400000, 0x03E91C0DE4400000, 0x03E9200E2DC00000,
  0x03E9240E45600000, 0x03E9280E84400000, 0x03E92C0F12200000, 0x03E9300F27C00000,
  0x03E9340F29200000, 0x03E9380F29000000, 0x03E93C0F2A000000, 0x03E9400F2AC00000,
  0x03E9440F2BA00000, 0x03E9480F31A00000, 0x03E94C0F31C00000, 0x03E9500F48000000,
  0x03E9540F50200000, 0x03E9580F78000000, 0x03E95C0FBE800000, 0x03E9600FC1200000,
  0x03E9640FC8200000, 0x03E9680FEE400000, 0x03E96C1000A00000, 0x03E970103DA00000,
  0x03E974104F200000, 0x03E978104F200000, 0x03E97C108AE00000, 0x03E9801122000000,
  0x03E9841132C00000, 0x03E9881160200000, 0x03E98C1167200000, 0x03E990119A600000,
  0x03E99411A1000000, 0x03E99811F6C00000, 0x03E99C1207000000, 0x03E9A012DC600000,
  0x03E9A412FFE00000, 0x03E9A81307600000, 0x03E9AC0C0EA00000, 0x03E9B0485DC00000,
  0x03E9B41043000000, 0x03E9C009C4C00000, 0x03E9C40A36A00000, 0x03E9C80A2D000000,
  0x03E9CC09F0000000, 0x03E9D00A28A00000, 0x03E9D40A30000000, 0x03E9D80A58E00000,
  0x03E9DC0A5F400000, 0x03E9E00AB3A00000, 0x03E9E40AAAA00000, 0x03E9E80AB3200000,
  0x03E9EC0ABC400000, 0x03E9F00B0B400000, 0x03E9F40B16600000, 0x03E9F80B28800000,
  0x03E9FC0B2A800000, 0x03EA000B4C400000, 0x03EA040B65000000, 0x03EA080BDA400000,
  0x03EA0C0BDB200000, 0x03EA100BED200000, 0x03EA140BF5A00000, 0x03EA180C1B000000,
  0x03EA1C0C29C00000, 0x03EA200C21000000, 0x03EA240C31C00000, 0x03EA280C2C000000,
  0x03EA2C0C3E400000, 0x03EA300C46800000, 0x03EA340C78800000, 0x03EA380C83800000,
  0x03EA3C0C8A400000, 0x03EA400CAAC00000, 0x03EA440CCE800000, 0x03EA480CE2E00000,
  0x03EA4C0CE3600000, 0x03EA500CEAC00000, 0x03EA540D6F200000, 0x03EA580D77400000,
  0x03EA5C0DA8200000, 0x03EA600DDB600000, 0x03EA640DD9600000, 0x03EA680DE4400000,
  0x03EA6C0E03C00000, 0x03EA700E2DC00000, 0x03EA740EF4E00000, 0x03EA780E46A00000,
  0x03EA7C0E55E00000, 0x03EA800E65400000, 0x03EA840E8E200000, 0x03EA880EA0C00000,
  0x03EA8C0EA7600000, 0x03EA900EC3A00000, 0x03EA940EC3E00000, 0x03EA980ED9400000,
  0x03EA9C0EDB600000, 0x03EAA00EDE800000, 0x03EAA40EE9400000, 0x03EAA80EE8000000,
  0x03EAAC0F19800000, 0x03EAB00F56200000, 0x03EAB40F78000000, 0x03EAB80F8F600000,
  0x03EABC0FAB600000, 0x03EAC00FBE800000, 0x03EAC40FE7C00000, 0x03EAC81000A00000,
  0x03EACC106A400000, 0x03EAD0107DE00000, 0x03EAD410EF200000, 0x03EAD81128200000,
  0x03EADC1130C00000, 0x03EAE01132C00000, 0x03EAE41157E00000, 0x03EAE8115F000000,
  0x03EAEC1159600000, 0x03EAF01160200000, 0x03EAF4115FC00000, 0x03EAF8115DA00000,
  0x03EAFC1167200000, 0x03EB001171400000, 0x03EB0411A1000000, 0x03EB0811E7000000,
  0x03EB0C120E400000, 0x03EB101233200000, 0x03EB14124EC00000, 0x03EB1812CF800000,
  0x03EB1C12DC600000, 0x03EB2012EAC00000, 0x03EB2412FB600000, 0x03EB2812FFE00000,
  0x03EB2C1301600000, 0x03EB301307600000, 0x03EB341362400000, 0x03EB3813F3800000,
  0x03EB3C4509400000, 0x03EB404508800000, 0x03EB44467AA00000, 0x03EB480773A00000,
  0x03EB4C0803000000, 0x03EB500807200000, 0x03EB544A49200000, 0x03EB584B9A000000,
  0x03EB5C4FDA600000, 0x03EB6013E8600000, 0x03EB6413F1C00000, 0x03EC7400BB2005B4,
  0x03EC7C00BE4005B7, 0x03ECA800BD2005C1, 0x03ECAC00BD2005C2, 0x03ECB01F692005C1,
  0x03ECB41F692005C2, 0x03ECB800BA0005B7, 0x03ECBC00BA0005B8, 0x03ECC000BA0005BC,
  0x03ECC400BA2005BC, 0x03ECC800BA4005BC, 0x03ECCC00BA6005BC, 0x03ECD000BA8005BC,
  0x03ECD400BAA005BC, 0x03ECD800BAC005BC, 0x03ECE000BB0005BC, 0x03ECE400BB2005BC,
  0x03ECE800BB4005BC, 0x03ECEC00BB6005BC, 0x03ECF000BB8005BC, 0x03ECF800BBC005BC,
  0x03ED0000BC0005BC, 0x03ED0400BC2005BC, 0x03ED0C00BC6005BC, 0x03ED1000BC8005BC,
  0x03ED1800BCC005BC, 0x03ED1C00BCE005BC, 0x03ED2000BD0005BC, 0x03ED2400BD2005BC,
  0x03ED2800BD4005BC, 0x03ED2C00BAA005B9, 0x03ED3000BA2005BF, 0x03ED3400BB6005BF,
  0x03ED3800BC8005BF, 0x04426822132110BA, 0x04427022136110BA, 0x0442AC2214A110BA,
  0x0444B82226211127, 0x0444BC2226411127, 0x044D2C2268E1133E, 0x044D302268E11357,
  0x0452EC22972114BA, 0x0452F022972114B0, 0x0452F822972114BD, 0x0456E822B70115AF,
  0x0456EC22B72115AF, 0x0464E02326A11930, 0x0745783A2AE1D165, 0x07457C3A2B01D165,
  0x0745803A2BE1D16E, 0x0745843A2BE1D16F, 0x0745883A2BE1D170, 0x07458C3A2BE1D171,
  0x0745903A2BE1D172, 0x0746EC3A3721D165, 0x0746F03A3741D165, 0x0746F43A3761D16E,
  0x0746F83A3781D16E, 0x0746FC3A3761D16F, 0x0747003A3781D16F, 0x0BE00009C7A00000,
  0x0BE00409C7000000, 0x0BE00809C8200000, 0x0BE00C4024400000, 0x0BE01009EC000000,
  0x0BE01409F5C00000, 0x0BE01809F7600000, 0x0BE01C0A00400000, 0x0BE0200A0F400000,
  0x0BE0240A13200000, 0x0BE0280A1CE00000, 0x0BE02C0A19E00000, 0x0BE0300693C00000,
  0x0BE03440C7400000, 0x0BE0380A29A00000, 0x0BE03C0A2A800000, 0x0BE0400A2C800000,
  0x0BE0440A2EE00000, 0x0BE04840A3800000, 0x0BE04C0697200000, 0x0BE0500A2CE00000,
  0x0BE0540A31A00000, 0x0BE05840A9600000, 0x0BE05C0A32E00000, 0x0BE0600A34800000,
  0x0BE06409D9800000, 0x0BE0680A35800000, 0x0BE06C0A36A00000, 0x0BE070523BE00000,
  0x0BE0740A3EA00000, 0x0BE0780A40600000, 0x0BE07C069BE00000, 0x0BE0800A47600000,
  0x0BE0840A48C00000, 0x0BE0880A4E400000, 0x0BE08C0A4EE00000, 0x0BE09006A2A00000,
  0x0BE0940A58E00000, 0x0BE0980A59200000, 0x0BE09C0A5C800000, 0x0BE0A00A5F400000,
  0x0BE0A40A60A00000, 0x0BE0A80A60C00000, 0x0BE0AC0A62E00000, 0x0BE0B00A69200000,
  0x0BE0B40A6A200000, 0x0BE0B80A6B400000, 0x0BE0BC0A6E600000, 0x0BE0C00A6FA00000,
  0x0BE0C40A6FE00000, 0x0BE0C80A6FE00000, 0x0BE0CC0A6FE00000, 0x0BE0D04145800000,
  0x0BE0D40E0E000000, 0x0BE0D80A79400000, 0x0BE0DC0A7BE00000, 0x0BE0E0416C600000,
  0x0BE0E40A7D600000, 0x0BE0E80A7E200000, 0x0BE0EC0A80C00000, 0x0BE0F00A93C00000,
  0x0BE0F40A87000000, 0x0BE0F80A89000000, 0x0BE0FC0A8D000000, 0x0BE1000A94400000,
  0x0BE1040A9EC00000, 0x0BE1080AA2000000, 0x0BE10C0AAA600000, 0x0BE1100AAC600000,
  0x0BE1140AB0800000, 0x0BE1180AB0800000, 0x0BE11C0AB3200000, 0x0BE1200AB5600000,
  0x0BE1240AB6600000, 0x0BE1280AB8400000, 0x0BE12C0AE2C00000, 0x0BE1300AC0C00000,
  0x0BE1340AE2E00000, 0x0BE1380ACA200000, 0x0BE13C0ACE800000, 0x0BE1400A40E00000,
  0x0BE1440B1DC00000, 0x0BE1480AF9C00000, 0x0BE14C0AFE800000, 0x0BE1500B01A00000,
  0x0BE1540AF1600000, 0x0BE1580B06400000, 0x0BE15C0B06200000, 0x0BE1600B15800000,
  0x0BE164429C800000, 0x0BE1680B1E400000, 0x0BE16C0B1EE00000, 0x0BE1700B20C00000,
  0x0BE1740B23400000, 0x0BE1780B24400000, 0x0BE17C0B2C400000, 0x0BE18042D5000000,
  0x0BE18442DD400000, 0x0BE1880B3D800000, 0x0BE18C0B43600000, 0x0BE1900B44E00000,
  0x0BE1940B3B000000, 0x0BE1980B4CC00000, 0x0BE19C06DDC00000, 0x0BE1A006DF800000,
  0x0BE1A40B61000000, 0x0BE1A80B67C00000, 0x0BE1AC0B67C00000, 0x0BE1B04339000000,
  0x0BE1B40B78600000, 0x0BE1B80B7B000000, 0x0BE1BC0B7CE00000, 0x0BE1C00B7E600000,
  0x0BE1C44363000000, 0x0BE1C80B7FE00000, 0x0BE1CC0B80C00000, 0x0BE1D00BEA600000,
  0x0BE1D40B84400000, 0x0BE1D806F0200000, 0x0BE1DC0B8C000000, 0x0BE1E00B8DC00000,
  0x0BE1E40B98000000, 0x0BE1E80B91A00000, 0x0BE1EC43BC800000, 0x0BE1F00BA8600000,
  0x0BE1F443BCC00000, 0x0BE1F80BADC00000, 0x0BE1FC0BAD600000, 0x0BE2000BAF800000,
  0x0BE2040BBC200000, 0x0BE2080BBC400000, 0x0BE20C0705E00000, 0x0BE2100BBFA00000,
  0x0BE2140BC5000000, 0x0BE2180BC7A00000, 0x0BE21C0BCD200000, 0x0BE220070C400000,
  0x0BE2244430600000, 0x0BE228070F800000, 0x0BE22C0BD6000000, 0x0BE2300BD6600000,
  0x0BE2340BD6C00000, 0x0BE2380BD9400000, 0x0BE23C5472400000, 0x0BE2400BDFC00000,
  0x0BE2444466200000, 0x0BE2484466200000, 0x0BE24C1040200000, 0x0BE2500BE4400000,
  0x0BE2540BE4400000, 0x0BE2580718E00000, 0x0BE25C4657000000, 0x0BE2604C3B400000,
  0x0BE2640BEC400000, 0x0BE2680BED600000, 0x0BE26C071C600000, 0x0BE2700BF3400000,
  0x0BE2740BF9A00000, 0x0BE2780BFAE00000, 0x0BE27C0BFF200000, 0x0BE2800C10200000,
  0x0BE2840727400000, 0x0BE2880723800000, 0x0BE28C0C12800000, 0x0BE29044DA800000,
  0x0BE2940C18E00000, 0x0BE2980C29000000, 0x0BE29C0C29800000, 0x0BE2A00C29C00000,
  0x0BE2A40C29800000, 0x0BE2A80C2F400000, 0x0BE2AC0C31C00000, 0x0BE2B00C36400000,
  0x0BE2B40C34800000, 0x0BE2B80C35E00000, 0x0BE2BC0C3BC00000, 0x0BE2C00C3E400000,
  0x0BE2C40C3EC00000, 0x0BE2C80C42000000, 0x0BE2CC0C43600000, 0x0BE2D00C4BA00000,
  0x0BE2D40C56200000, 0x0BE2D80C5A800000, 0x0BE2DC0C6A000000, 0x0BE2E04561800000,
  0x0BE2E40C67A00000, 0x0BE2E80C5F800000, 0x0BE2EC0C6D000000, 0x0BE2F00C70600000,
  0x0BE2F40C7C800000, 0x0BE2F8457E200000, 0x0BE2FC0C84400000, 0x0BE3000C78A00000,
  0x0BE3040C75200000, 0x0BE3080745C00000, 0x0BE30C0C8D200000, 0x0BE3100C8FC00000,
  0x0BE3140C93A00000, 0x0BE3180C8EE00000, 0x0BE31C074D800000, 0x0BE3200CA9E00000,
  0x0BE3240CAD800000, 0x0BE3284601400000, 0x0BE32C0CBC600000, 0x0BE3300CDF000000,
  0x0BE3340CC9200000, 0x0BE3380763200000, 0x0BE33C0CD2200000, 0x0BE3400761000000,
  0x0BE344075C800000, 0x0BE3480A32400000, 0x0BE34C0A32A00000, 0x0BE3500CE0000000,
  0x0BE3540CD3800000, 0x0BE3581015A00000, 0x0BE35C087B200000, 0x0BE3600CE2E00000,
  0x0BE3640CE3600000, 0x0BE3680CE4200000, 0x0BE36C0CEBC00000, 0x0BE3700CEA600000,
  0x0BE3744678600000, 0x0BE3780769200000, 0x0BE37C0CFF400000, 0x0BE3800CF0A00000,
  0x0BE3840D0A400000, 0x0BE3880D10A00000, 0x0BE38C468DA00000, 0x0BE3900D11C00000,
  0x0BE3940D03E00000, 0x0BE3980D22800000, 0x0BE39C0773A00000, 0x0BE3A00D28400000,
  0x0BE3A40D34600000, 0x0BE3A80D3D400000, 0x0BE3AC0D55000000, 0x0BE3B046D4600000,
  0x0BE3B40D5B600000, 0x0BE3B80783000000, 0x0BE3BC0D64200000, 0x0BE3C04714E00000,
  0x0BE3C40D6A800000, 0x0BE3C80789C00000, 0x0BE3CC0D6E400000, 0x0BE3D00D73E00000,
  0x0BE3D40D77400000, 0x0BE3D80D77600000, 0x0BE3DC4751A00000, 0x0BE3E043A1600000,
  0x0BE3E4475F400000, 0x0BE3E80D89C00000, 0x0BE3EC4797800000, 0x0BE3F00D97E00000,
  0x0BE3F40D99A00000, 0x0BE3F80D8CE00000, 0x0BE3FC0DA2C00000, 0x0BE4000DA7C00000,
  0x0BE4040DAEE00000, 0x0BE4080DA8200000, 0x0BE40C0DAD200000, 0x0BE4100DAF000000,
  0x0BE4140DB0A00000, 0x0BE41847A3C00000, 0x0BE41C0DA6800000, 0x0BE4200DC5E00000,
  0x0BE4240DCDC00000, 0x0BE42807A6600000, 0x0BE42C0DD9600000, 0x0BE4300DD8E00000,
  0x0BE43447DA200000, 0x0BE4380DBF200000, 0x0BE43C0DEDC00000, 0x0BE44047EBC00000,
  0x0BE44447F1C00000, 0x0BE4480DF8C00000, 0x0BE44C0E07200000, 0x0BE4500E03C00000,
  0x0BE4540E03600000, 0x0BE45807B2C00000, 0x0BE45C0E09400000, 0x0BE4600E0FA00000,
  0x0BE4640E0EE00000, 0x0BE4680E15A00000, 0x0BE46C40A4A00000, 0x0BE4700E28A00000,
  0x0BE474484C600000, 0x0BE4780E33800000, 0x0BE47C4875600000, 0x0BE4800E45000000,
  0x0BE4840E46A00000, 0x0BE4880E4A000000, 0x0BE48C48C1000000, 0x0BE4900E50000000,
  0x0BE4940E52A00000, 0x0BE49848E6A00000, 0x0BE49C4902800000, 0x0BE4A00E6F400000,
  0x0BE4A40E71600000, 0x0BE4A807D5800000, 0x0BE4AC0E74A00000, 0x0BE4B007D7000000,
  0x0BE4B407D7000000, 0x0BE4B80E88E00000, 0x0BE4BC0E8B800000, 0x0BE4C00E8E200000,
  0x0BE4C40E90A00000, 0x0BE4C80E99400000, 0x0BE4CC07E3600000, 0x0BE4D00EA4800000,
  0x0BE4D44986C00000, 0x0BE4D80EA7C00000, 0x0BE4DC4992400000, 0x0BE4E00EAE000000,
  0x0BE4E44433E00000, 0x0BE4E80EC2000000, 0x0BE4EC49F4200000, 0x0BE4F049F7000000,
  0x0BE4F44A08800000, 0x0BE4F807FF800000, 0x0BE4FC0801000000, 0x0BE5000EDE800000,
  0x0BE5044A1E600000, 0x0BE5084A1E400000, 0x0BE50C4A23200000, 0x0BE5104A26600000,
  0x0BE5140EE3C00000, 0x0BE5180EE3E00000, 0x0BE51C0EE3E00000, 0x0BE5200EE9400000,
  0x0BE5240807200000, 0x0BE5280EF1600000, 0x0BE52C0808C00000, 0x0BE5300812C00000,
  0x0BE5344A83A00000, 0x0BE5380F09C00000, 0x0BE53C0F11800000, 0x0BE5400F19800000,
  0x0BE544081C600000, 0x0BE5484AC4C00000, 0x0BE54C0F2AC00000, 0x0BE5504AD3400000,
  0x0BE5544AD8A00000, 0x0BE5580F31E00000, 0x0BE55C0F3D600000, 0x0BE5600825E00000,
  0x0BE5640F48000000, 0x0BE5680F49400000, 0x0BE56C0F49E00000, 0x0BE5704B2F800000,
  0x0BE5744B54E00000, 0x0BE5784B54E00000, 0x0BE57C0F5DC00000, 0x0BE5800840400000,
  0x0BE5844B75600000, 0x0BE5880F78C00000, 0x0BE58C0F79200000, 0x0BE5900844E00000,
  0x0BE5944B90000000, 0x0BE5980F9A400000, 0x0BE59C0854000000, 0x0BE5A00F9D000000,
  0x0BE5A40F9C600000, 0x0BE5A80FA0000000, 0x0BE5AC4BF0C00000, 0x0BE5B00FAC600000,
  0x0BE5B40860200000, 0x0BE5B80FB8E00000, 0x0BE5BC0FC0400000, 0x0BE5C00FC8A00000,
  0x0BE5C40866800000, 0x0BE5C84C45000000, 0x0BE5CC4C48E00000, 0x0BE5D0086B200000,
  0x0BE5D44C5B200000, 0x0BE5D80FEF400000, 0x0BE5DC4C67C00000, 0x0BE5E00FF2A00000,
  0x0BE5E40FFF400000, 0x0BE5E81000A00000, 0x0BE5EC4C9B400000, 0x0BE5F04CA4600000,
  0x0BE5F4100C000000, 0x0BE5F84CB5000000, 0x0BE5FC100E000000, 0x0BE600466BE00000,
  0x0BE604087AA00000, 0x0BE6081016400000, 0x0BE60C1020600000, 0x0BE6100881600000,
  0x0BE6141027C00000, 0x0BE6180B56A00000, 0x0BE61C4CF4E00000, 0x0BE6204CF6A00000,
  0x0BE6244672600000, 0x0BE6284673800000, 0x0BE62C1040200000, 0x0BE6301040800000,
  0x0BE63411F3C00000, 0x0BE638088D600000, 0x0BE63C1052200000, 0x0BE6401051600000,
  0x0BE6441053A00000, 0x0BE6480A56600000, 0x0BE64C1056200000, 0x0BE6501056600000,
  0x0BE6541057A00000, 0x0BE658105CC00000, 0x0BE65C4D67800000, 0x0BE660105CA00000,
  0x0BE6641063A00000, 0x0BE668106C600000, 0x0BE66C1075A00000, 0x0BE6701064600000,
  0x0BE6741077A00000, 0x0BE678107CE00000, 0x0BE67C108AE00000, 0x0BE680106A600000,
  0x0BE6841079400000, 0x0BE6881079800000, 0x0BE68C107B800000, 0x0BE6904D86C00000,
  0x0BE6944DAD600000, 0x0BE6984D9AA00000, 0x0BE69C08A5600000, 0x0BE6A0109E200000,
  0x0BE6A4109E600000, 0x0BE6A810A2C00000, 0x0BE6AC4E79400000, 0x0BE6B010AC800000,
  0x0BE6B44DE5800000, 0x0BE6B808ABA00000, 0x0BE6BC08AC200000, 0x0BE6C04DF6200000,
  0x0BE6C44E1A400000, 0x0BE6C808AD600000, 0x0BE6CC10CA000000, 0x0BE6D010CB800000,
  0x0BE6D410CCE00000, 0x0BE6D810CD200000, 0x0BE6DC10D5200000, 0x0BE6E010D1000000,
  0x0BE6E410E1C00000, 0x0BE6E810DC400000, 0x0BE6EC10EF200000, 0x0BE6F010E5000000,
  0x0BE6F410ED600000, 0x0BE6F810F0C00000, 0x0BE6FC08BAE00000, 0x0BE70010FC200000,
  0x0BE7041100200000, 0x0BE70808BF200000, 0x0BE70C110C000000, 0x0BE710110C600000,
  0x0BE7144ECCE00000, 0x0BE718111AE00000, 0x0BE71C111BC00000, 0x0BE72008C6A00000,
  0x0BE724111F400000, 0x0BE7280697600000, 0x0BE72C4F15C00000, 0x0BE7304F2CC00000,
  0x0BE73408D7C00000, 0x0BE73808D8E00000, 0x0BE73C1154000000, 0x0BE740115DA00000,
  0x0BE7441171400000, 0x0BE748118AA00000, 0x0BE74C4F95000000, 0x0BE7501195600000,
  0x0BE7541198200000, 0x0BE75811A3600000, 0x0BE75C11AEE00000, 0x0BE7604FE5E00000,
  0x0BE7644100800000, 0x0BE76811B9600000, 0x0BE76C11B7800000, 0x0BE77011BE000000,
  0x0BE774411BC00000, 0x0BE77811DA800000, 0x0BE77C11E7000000, 0x0BE78050BA400000,
  0x0BE78450BDA00000, 0x0BE7881212800000, 0x0BE78C121E200000, 0x0BE7901222200000,
  0x0BE79450E5C00000, 0x0BE7981223600000, 0x0BE79C1247000000, 0x0BE7A0125AE00000,
  0x0BE7A4125B000000, 0x0BE7A8124F800000, 0x0BE7AC127F200000, 0x0BE7B01282A00000,
  0x0BE7B4517F400000, 0x0BE7B812B1600000, 0x0BE7BC0932A00000, 0x0BE7C012B6E00000,
  0x0BE7C451AEE00000, 0x0BE7C8093CC00000, 0x0BE7CC12D8600000, 0x0BE7D00BB6400000,
  0x0BE7D412E4600000, 0x0BE7D85228A00000, 0x0BE7DC5243400000, 0x0BE7E0094DC00000,
  0x0BE7E4094EC00000, 0x0BE7E812FC000000, 0x0BE7EC5281400000, 0x0BE7F00956400000,
  0x0BE7F45292C00000, 0x0BE7F81301600000, 0x0BE7FC1301600000, 0x0BE8001305200000,
  0x0BE80452B6C00000, 0x0BE808131C400000, 0x0BE80C0966600000, 0x0BE8101325200000,
  0x0BE8141334E00000, 0x0BE8181338400000, 0x0BE81C133FC00000, 0x0BE8200979C00000,
  0x0BE8245366000000, 0x0BE8281362400000, 0x0BE82C1388000000, 0x0BE830139FA00000,
  0x0BE8340999C00000, 0x0BE838099DA00000, 0x0BE83C13ACE00000, 0x0BE8405419C00000,
  0x0BE844099F000000, 0x0BE8485420A00000, 0x0BE84C5441C00000, 0x0BE8505452200000,
  0x0BE85413D7600000, 0x0BE85809AAC00000, 0x0BE85C13DF200000, 0x0BE86013DFC00000,
  0x0BE86413E0A00000, 0x0BE86813E1E00000, 0x0BE86C13E2C00000, 0x0BE87013E7600000,
  0x0BE87454C0000000]

/-- The pairs that compose into one character, each pair known by the low sixteen bits of its
two characters: the low bits of the first in bits 37 to 52, of the second in bits 21 to 36, and
the character they form in bits 0 to 20. Characters excluded from composition have no entry. No
two pairs share their low bits. Sorted by pair. -/
def compositions : Array UInt64 := #[
  0x0007806700226E, 0x0007A067002260, 0x0007C06700226F, 0x000820600000C0,
  0x000820602000C1, 0x000820604000C2, 0x000820606000C3, 0x00082060800100,
  0x00082060C00102, 0x00082060E00226, 0x000820610000C4, 0x00082061201EA2,
  0x000820614000C5, 0x000820618001CD, 0x00082061E00200, 0x00082062200202,
  0x00082064601EA0, 0x00082064A01E00, 0x00082065000104, 0x00084060E01E02,
  0x00084064601E04, 0x00084066201E06, 0x00086060200106, 0x00086060400108,
  0x00086060E0010A, 0x0008606180010C, 0x00086064E000C7, 0x00088060E01E0A,
  0x0008806180010E, 0x00088064601E0C, 0x00088064E01E10, 0x00088065A01E12,
  0x00088066201E0E, 0x0008A0600000C8, 0x0008A0602000C9, 0x0008A0604000CA,
  0x0008A060601EBC, 0x0008A060800112, 0x0008A060C00114, 0x0008A060E00116,
  0x0008A0610000CB, 0x0008A061201EBA, 0x0008A06180011A, 0x0008A061E00204,
  0x0008A062200206, 0x0008A064601EB8, 0x0008A064E00228, 0x0008A065000118,
  0x0008A065A01E18, 0x0008A066001E1A, 0x0008C060E01E1E, 0x0008E0602001F4,
  0x0008E06040011C, 0x0008E060801E20, 0x0008E060C0011E, 0x0008E060E00120,
  0x0008E0618001E6, 0x0008E064E00122, 0x00090060400124, 0x00090060E01E22,
  0x00090061001E26, 0x0009006180021E, 0x00090064601E24, 0x00090064E01E28,
  0x00090065C01E2A, 0x000920600000CC, 0x000920602000CD, 0x000920604000CE,
  0x00092060600128, 0x0009206080012A, 0x00092060C0012C, 0x00092060E00130,
  0x000920610000CF, 0x00092061201EC8, 0x000920618001CF, 0x00092061E00208,
  0x0009206220020A, 0x00092064601ECA, 0x0009206500012E, 0x00092066001E2C,
  0x00094060400134, 0x00096060201E30, 0x000960618001E8, 0x00096064601E32,
  0x00096064E00136, 0x00096066201E34, 0x00098060200139, 0x0009806180013D,
  0x00098064601E36, 0x00098064E0013B, 0x00098065A01E3C, 0x00098066201E3A,
  0x0009A060201E3E, 0x0009A060E01E40, 0x0009A064601E42, 0x0009C0600001F8,
  0x0009C060200143, 0x0009C0606000D1, 0x0009C060E01E44, 0x0009C061800147,
  0x0009C064601E46, 0x0009C064E00145, 0x0009C065A01E4A, 0x0009C066201E48,
  0x0009E0600000D2, 0x0009E0602000D3, 0x0009E0604000D4, 0x0009E0606000D5,
  0x0009E06080014C, 0x0009E060C0014E, 0x0009E060E0022E, 0x0009E0610000D6,
  0x0009E061201ECE, 0x0009E061600150, 0x0009E0618001D1, 0x0009E061E0020C,
  0x0009E06220020E, 0x0009E0636001A0, 0x0009E064601ECC, 0x0009E0650001EA,
  0x000A0060201E54, 0x000A0060E01E56, 0x000A4060200154, 0x000A4060E01E58,
  0x000A4061800158, 0x000A4061E00210, 0x000A4062200212, 0x000A4064601E5A,
  0x000A4064E00156, 0x000A4066201E5E, 0x000A606020015A, 0x000A606040015C,
  0x000A6060E01E60, 0x000A6061800160, 0x000A6064601E62, 0x000A6064C00218,
  0x000A6064E0015E, 0x000A8060E01E6A, 0x000A8061800164, 0x000A8064601E6C,
  0x000A8064C0021A, 0x000A8064E00162, 0x000A8065A01E70, 0x000A8066201E6E,
  0x000AA0600000D9, 0x000AA0602000DA, 0x000AA0604000DB, 0x000AA060600168,
  0x000AA06080016A, 0x000AA060C0016C, 0x000AA0610000DC, 0x000AA061201EE6,
  0x000AA06140016E, 0x000AA061600170, 0x000AA0618001D3, 0x000AA061E00214,
  0x000AA062200216, 0x000AA0636001AF, 0x000AA064601EE4, 0x000AA064801E72,
  0x000AA065000172, 0x000AA065A01E76, 0x000AA066001E74, 0x000AC060601E7C,
  0x000AC064601E7E, 0x000AE060001E80, 0x000AE060201E82, 0x000AE060400174,
  0x000AE060E01E86, 0x000AE061001E84, 0x000AE064601E88, 0x000B0060E01E8A,
  0x000B0061001E8C, 0x000B2060001EF2, 0x000B20602000DD, 0x000B2060400176,
  0x000B2060601EF8, 0x000B2060800232, 0x000B2060E01E8E, 0x000B2061000178,
  0x000B2061201EF6, 0x000B2064601EF4, 0x000B4060200179, 0x000B4060401E90,
  0x000B4060E0017B, 0x000B406180017D, 0x000B4064601E92, 0x000B4066201E94,
  0x000C20600000E0, 0x000C20602000E1, 0x000C20604000E2, 0x000C20606000E3,
  0x000C2060800101, 0x000C2060C00103, 0x000C2060E00227, 0x000C20610000E4,
  0x000C2061201EA3, 0x000C20614000E5, 0x000C20618001CE, 0x000C2061E00201,
  0x000C2062200203, 0x000C2064601EA1, 0x000C2064A01E01, 0x000C2065000105,
  0x000C4060E01E03, 0x000C4064601E05, 0x000C4066201E07, 0x000C6060200107,
  0x000C6060400109, 0x000C6060E0010B, 0x000C606180010D, 0x000C6064E000E7,
  0x000C8060E01E0B, 0x000C806180010F, 0x000C8064601E0D, 0x000C8064E01E11,
  0x000C8065A01E13, 0x000C8066201E0F, 0x000CA0600000E8, 0x000CA0602000E9,
  0x000CA0604000EA, 0x000CA060601EBD, 0x000CA060800113, 0x000CA060C00115,
  0x000CA060E00117, 0x000CA0610000EB, 0x000CA061201EBB, 0x000CA06180011B,
  0x000CA061E00205, 0x000CA062200207, 0x000CA064601EB9, 0x000CA064E00229,
  0x000CA065000119, 0x000CA065A01E19, 0x000CA066001E1B, 0x000CC060E01E1F,
  0x000CE0602001F5, 0x000CE06040011D, 0x000CE060801E21, 0x000CE060C0011F,
  0x000CE060E00121, 0x000CE0618001E7, 0x000CE064E00123, 0x000D0060400125,
  0x000D0060E01E23, 0x000D0061001E27, 0x000D006180021F, 0x000D0064601E25,
  0x000D0064E01E29, 0x000D0065C01E2B, 0x000D0066201E96, 0x000D20600000EC,
  0x000D20602000ED, 0x000D20604000EE, 0x000D2060600129, 0x000D206080012B,
  0x000D2060C0012D, 0x000D20610000EF, 0x000D2061201EC9, 0x000D20618001D0,
  0x000D2061E00209, 0x000D206220020B, 0x000D2064601ECB, 0x000D206500012F,
  0x000D2066001E2D, 0x000D4060400135, 0x000D40618001F0, 0x000D6060201E31,
  0x000D60618001E9, 0x000D6064601E33, 0x000D6064E00137, 0x000D6066201E35,
  0x000D806020013A, 0x000D806180013E, 0x000D8064601E37, 0x000D8064E0013C,
  0x000D8065A01E3D, 0x000D8066201E3B, 0x000DA060201E3F, 0x000DA060E01E41,
  0x000DA064601E43, 0x000DC0600001F9, 0x000DC060200144, 0x000DC0606000F1,
  0x000DC060E01E45, 0x000DC061800148, 0x000DC064601E47, 0x000DC064E00146,
  0x000DC065A01E4B, 0x000DC066201E49, 0x000DE0600000F2, 0x000DE0602000F3,
  0x000DE0604000F4, 0x000DE0606000F5, 0x000DE06080014D, 0x000DE060C0014F,
  0x000DE060E0022F, 0x000DE0610000F6, 0x000DE061201ECF, 0x000DE061600151,
  0x000DE0618001D2, 0x000DE061E0020D, 0x000DE06220020F, 0x000DE0636001A1,
  0x000DE064601ECD, 0x000DE0650001EB, 0x000E0060201E55, 0x000E0060E01E57,
  0x000E4060200155, 0x000E4060E01E59, 0x000E4061800159, 0x000E4061E00211,
  0x000E4062200213, 0x000E4064601E5B, 0x000E4064E00157, 0x000E4066201E5F,
  0x000E606020015B, 0x000E606040015D, 0x000E6060E01E61, 0x000E6061800161,
  0x000E6064601E63, 0x000E6064C00219, 0x000E6064E0015F, 0x000E8060E01E6B,
  0x000E8061001E97, 0x000E8061800165, 0x000E8064601E6D, 0x000E8064C0021B,
  0x000E8064E00163, 0x000E8065A01E71, 0x000E8066201E6F, 0x000EA0600000F9,
  0x000EA0602000FA, 0x000EA0604000FB, 0x000EA060600169, 0x000EA06080016B,
  0x000EA060C0016D, 0x000EA0610000FC, 0x000EA061201EE7, 0x000EA06140016F,
  0x000EA061600171, 0x000EA0618001D4, 0x000EA061E00215, 0x000EA062200217,
  0x000EA0636001B0, 0x000EA064601EE5, 0x000EA064801E73, 0x000EA065000173,
  0x000EA065A01E77, 0x000EA066001E75, 0x000EC060601E7D, 0x000EC064601E7F,
  0x000EE060001E81, 0x000EE060201E83, 0x000EE060400175, 0x000EE060E01E87,
  0x000EE061001E85, 0x000EE061401E98, 0x000EE064601E89, 0x000F0060E01E8B,
  0x000F0061001E8D, 0x000F2060001EF3, 0x000F20602000FD, 0x000F2060400177,
  0x000F2060601EF9, 0x000F2060800233, 0x000F2060E01E8F, 0x000F20610000FF,
  0x000F2061201EF7, 0x000F2061401E99, 0x000F2064601EF5, 0x000F406020017A,
  0x000F4060401E91, 0x000F4060E0017C, 0x000F406180017E, 0x000F4064601E93,
  0x000F4066201E95, 0x00150060001FED, 0x00150060200385, 0x00150068401FC1,
  0x00184060001EA6, 0x00184060201EA4, 0x00184060601EAA, 0x00184061201EA8,
  0x001880608001DE, 0x0018A0602001FA, 0x0018C0602001FC, 0x0018C0608001E2,
  0x0018E060201E08, 0x00194060001EC0, 0x00194060201EBE, 0x00194060601EC4,
  0x00194061201EC2, 0x0019E060201E2E, 0x001A8060001ED2, 0x001A8060201ED0,
  0x001A8060601ED6, 0x001A8061201ED4, 0x001AA060201E4C, 0x001AA06080022C,
  0x001AA061001E4E, 0x001AC06080022A, 0x001B00602001FE, 0x001B80600001DB,
  0x001B80602001D7, 0x001B80608001D5, 0x001B80618001D9, 0x001C4060001EA7,
  0x001C4060201EA5, 0x001C4060601EAB, 0x001C4061201EA9, 0x001C80608001DF,
  0x001CA0602001FB, 0x001CC0602001FD, 0x001CC0608001E3, 0x001CE060201E09,
  0x001D4060001EC1, 0x001D4060201EBF, 0x001D4060601EC5, 0x001D4061201EC3,
  0x001DE060201E2F, 0x001E8060001ED3, 0x001E8060201ED1, 0x001E8060601ED7,
  0x001E8061201ED5, 0x001EA060201E4D, 0x001EA06080022D, 0x001EA061001E4F,
  0x001EC06080022B, 0x001F00602001FF, 0x001F80600001DC, 0x001F80602001D8,
  0x001F80608001D6, 0x001F80618001DA, 0x00204060001EB0, 0x00204060201EAE,
  0x00204060601EB4, 0x00204061201EB2, 0x00206060001EB1, 0x00206060201EAF,
  0x00206060601EB5, 0x00206061201EB3, 0x00224060001E14, 0x00224060201E16,
  0x00226060001E15, 0x00226060201E17, 0x00298060001E50, 0x00298060201E52,
  0x0029A060001E51, 0x0029A060201E53, 0x002B4060E01E64, 0x002B6060E01E65,
  0x002C0060E01E66, 0x002C2060E01E67, 0x002D0060201E78, 0x002D2060201E79,
  0x002D4061001E7A, 0x002D6061001E7B, 0x002FE060E01E9B, 0x00340060001EDC,
  0x00340060201EDA, 0x00340060601EE0, 0x00340061201EDE, 0x00340064601EE2,
  0x00342060001EDD, 0x00342060201EDB, 0x00342060601EE1, 0x00342061201EDF,
  0x00342064601EE3, 0x0035E060001EEA, 0x0035E060201EE8, 0x0035E060601EEE,
  0x0035E061201EEC, 0x0035E064601EF0, 0x00360060001EEB, 0x00360060201EE9,
  0x00360060601EEF, 0x00360061201EED, 0x00360064601EF1, 0x0036E0618001EE,
  0x003D40608001EC, 0x003D60608001ED, 0x0044C0608001E0, 0x0044E0608001E1,
  0x00450060C01E1C, 0x00452060C01E1D, 0x0045C060800230, 0x0045E060800231,
  0x005240618001EF, 0x00722060001FBA, 0x00722060200386, 0x00722060801FB9,
  0x00722060C01FB8, 0x00722062601F08, 0x00722062801F09, 0x00722068A01FBC,
  0x0072A060001FC8, 0x0072A060200388, 0x0072A062601F18, 0x0072A062801F19,
  0x0072E060001FCA, 0x0072E060200389, 0x0072E062601F28, 0x0072E062801F29,
  0x0072E068A01FCC, 0x00732060001FDA, 0x0073206020038A, 0x00732060801FD9,
  0x00732060C01FD8, 0x007320610003AA, 0x00732062601F38, 0x00732062801F39,
  0x0073E060001FF8, 0x0073E06020038C, 0x0073E062601F48, 0x0073E062801F49,
  0x00742062801FEC, 0x0074A060001FEA, 0x0074A06020038E, 0x0074A060801FE9,
  0x0074A060C01FE8, 0x0074A0610003AB, 0x0074A062801F59, 0x00752060001FFA,
  0x0075206020038F, 0x00752062601F68, 0x00752062801F69, 0x00752068A01FFC,
  0x00758068A01FB4, 0x0075C068A01FC4, 0x00762060001F70, 0x007620602003AC,
  0x00762060801FB1, 0x00762060C01FB0, 0x00762062601F00, 0x00762062801F01,
  0x00762068401FB6, 0x00762068A01FB3, 0x0076A060001F72, 0x0076A0602003AD,
  0x0076A062601F10, 0x0076A062801F11, 0x0076E060001F74, 0x0076E0602003AE,
  0x0076E062601F20, 0x0076E062801F21, 0x0076E068401FC6, 0x0076E068A01FC3,
  0x00772060001F76, 0x007720602003AF, 0x00772060801FD1, 0x00772060C01FD0,
  0x007720610003CA, 0x00772062601F30, 0x00772062801F31, 0x00772068401FD6,
  0x0077E060001F78, 0x0077E0602003CC, 0x0077E062601F40, 0x0077E062801F41,
  0x00782062601FE4, 0x00782062801FE5, 0x0078A060001F7A, 0x0078A0602003CD,
  0x0078A060801FE1, 0x0078A060C01FE0, 0x0078A0610003CB, 0x0078A062601F50,
  0x0078A062801F51, 0x0078A068401FE6, 0x00792060001F7C, 0x007920602003CE,
  0x00792062601F60, 0x00792062801F61, 0x00792068401FF6, 0x00792068A01FF3,
  0x00794060001FD2, 0x00794060200390, 0x00794068401FD7, 0x00796060001FE2,
  0x007960602003B0, 0x00796068401FE7, 0x0079C068A01FF4, 0x007A40602003D3,
  0x007A40610003D4, 0x0080C061000407, 0x00820060C004D0, 0x008200610004D2,
  0x00826060200403, 0x0082A060000400, 0x0082A060C004D6, 0x0082A061000401,
  0x0082C060C004C1, 0x0082C0610004DC, 0x0082E0610004DE, 0x0083006000040D,
  0x008300608004E2, 0x00830060C00419, 0x008300610004E4, 0x0083406020040C,
  0x0083C0610004E6, 0x008460608004EE, 0x00846060C0040E, 0x008460610004F0,
  0x008460616004F2, 0x0084E0610004F4, 0x008560610004F8, 0x0085A0610004EC,
  0x00860060C004D1, 0x008600610004D3, 0x00866060200453, 0x0086A060000450,
  0x0086A060C004D7, 0x0086A061000451, 0x0086C060C004C2, 0x0086C0610004DD,
  0x0086E0610004DF, 0x0087006000045D, 0x008700608004E3, 0x00870060C00439,
  0x008700610004E5, 0x0087406020045C, 0x0087C0610004E7, 0x008860608004EF,
  0x00886060C0045E, 0x008860610004F1, 0x008860616004F3, 0x0088E0610004F5,
  0x008960610004F9, 0x0089A0610004ED, 0x008AC061000457, 0x008E8061E00476,
  0x008EA061E00477, 0x009B00610004DA, 0x009B20610004DB, 0x009D00610004EA,
  0x009D20610004EB, 0x00C4E0CA600622, 0x00C4E0CA800623, 0x00C4E0CAA00625,
  0x00C900CA800624, 0x00C940CA800626, 0x00D820CA8006C2, 0x00DA40CA8006D3,
  0x00DAA0CA8006C0, 0x01250127800929, 0x01260127800931, 0x01266127800934,
  0x0138E137C009CB, 0x0138E13AE009CC, 0x0168E167C00B4B, 0x0168E16AC00B48,
  0x0168E16AE00B4C, 0x0172417AE00B94, 0x0178C177C00BCA, 0x0178C17AE00BCC,
  0x0178E177C00BCB, 0x0188C18AC00C48, 0x0197E19AA00CC0, 0x0198C198400CCA,
  0x0198C19AA00CC7, 0x0198C19AC00CC8, 0x0199419AA00CCB, 0x01A8C1A7C00D4A,
  0x01A8C1AAE00D4C, 0x01A8E1A7C00D4B, 0x01BB21B9400DDA, 0x01BB21B9E00DDC,
  0x01BB21BBE00DDE, 0x01BB81B9400DDD, 0x0204A205C01026, 0x0213221741109A,
  0x0213621741109C, 0x0214A2174110AB, 0x02262224E1112E, 0x02264224E1112F,
  0x0268E267C1134B, 0x0268E26AE1134C, 0x029722960114BC, 0x029722974114BB,
  0x02972297A114BE, 0x02B702B5E115BA, 0x02B722B5E115BB, 0x0326A326011938,
  0x0360A366A01B06, 0x0360E366A01B08, 0x03612366A01B0A, 0x03616366A01B0C,
  0x0361A366A01B0E, 0x03622366A01B12, 0x03674366A01B3B, 0x03678366A01B3D,
  0x0367C366A01B40, 0x0367E366A01B41, 0x03684366A01B43, 0x03C6C060801E38,
  0x03C6E060801E39, 0x03CB4060801E5C, 0x03CB6060801E5D, 0x03CC4060E01E68,
  0x03CC6060E01E69, 0x03D40060401EAC, 0x03D40060C01EB6, 0x03D42060401EAD,
  0x03D42060C01EB7, 0x03D70060401EC6, 0x03D72060401EC7, 0x03D98060401ED8,
  0x03D9A060401ED9, 0x03E00060001F02, 0x03E00060201F04, 0x03E00068401F06,
  0x03E00068A01F80, 0x03E02060001F03, 0x03E02060201F05, 0x03E02068401F07,
  0x03E02068A01F81, 0x03E04068A01F82, 0x03E06068A01F83, 0x03E08068A01F84,
  0x03E0A068A01F85, 0x03E0C068A01F86, 0x03E0E068A01F87, 0x03E10060001F0A,
  0x03E10060201F0C, 0x03E10068401F0E, 0x03E10068A01F88, 0x03E12060001F0B,
  0x03E12060201F0D, 0x03E12068401F0F, 0x03E12068A01F89, 0x03E14068A01F8A,
  0x03E16068A01F8B, 0x03E18068A01F8C, 0x03E1A068A01F8D, 0x03E1C068A01F8E,
  0x03E1E068A01F8F, 0x03E20060001F12, 0x03E20060201F14, 0x03E22060001F13,
  0x03E22060201F15, 0x03E30060001F1A, 0x03E30060201F1C, 0x03E32060001F1B,
  0x03E32060201F1D, 0x03E40060001F22, 0x03E40060201F24, 0x03E40068401F26,
  0x03E40068A01F90, 0x03E42060001F23, 0x03E42060201F25, 0x03E42068401F27,
  0x03E42068A01F91, 0x03E44068A01F92, 0x03E46068A01F93, 0x03E48068A01F94,
  0x03E4A068A01F95, 0x03E4C068A01F96, 0x03E4E068A01F97, 0x03E50060001F2A,
  0x03E50060201F2C, 0x03E50068401F2E, 0x03E50068A01F98, 0x03E52060001F2B,
  0x03E52060201F2D, 0x03E52068401F2F, 0x03E52068A01F99, 0x03E54068A01F9A,
  0x03E56068A01F9B, 0x03E58068A01F9C, 0x03E5A068A01F9D, 0x03E5C068A01F9E,
  0x03E5E068A01F9F, 0x03E60060001F32, 0x03E60060201F34, 0x03E60068401F36,
  0x03E62060001F33, 0x03E62060201F35, 0x03E62068401F37, 0x03E70060001F3A,
  0x03E70060201F3C, 0x03E70068401F3E, 0x03E72060001F3B, 0x03E72060201F3D,
  0x03E72068401F3F, 0x03E80060001F42, 0x03E80060201F44, 0x03E82060001F43,
  0x03E82060201F45, 0x03E90060001F4A, 0x03E90060201F4C, 0x03E92060001F4B,
  0x03E92060201F4D, 0x03EA0060001F52, 0x03EA0060201F54, 0x03EA0068401F56,
  0x03EA2060001F53, 0x03EA2060201F55, 0x03EA2068401F57, 0x03EB2060001F5B,
  0x03EB2060201F5D, 0x03EB2068401F5F, 0x03EC0060001F62, 0x03EC0060201F64,
  0x03EC0068401F66, 0x03EC0068A01FA0, 0x03EC2060001F63, 0x03EC2060201F65,
  0x03EC2068401F67, 0x03EC2068A01FA1, 0x03EC4068A01FA2, 0x03EC6068A01FA3,
  0x03EC8068A01FA4, 0x03ECA068A01FA5, 0x03ECC068A01FA6, 0x03ECE068A01FA7,
  0x03ED0060001F6A, 0x03ED0060201F6C, 0x03ED0068401F6E, 0x03ED0068A01FA8,
  0x03ED2060001F6B, 0x03ED2060201F6D, 0x03ED2068401F6F, 0x03ED2068A01FA9,
  0x03ED4068A01FAA, 0x03ED6068A01FAB, 0x03ED8068A01FAC, 0x03EDA068A01FAD,
  0x03EDC068A01FAE, 0x03EDE068A01FAF, 0x03EE0068A01FB2, 0x03EE8068A01FC2,
  0x03EF8068A01FF2, 0x03F6C068A01FB7, 0x03F7E060001FCD, 0x03F7E060201FCE,
  0x03F7E068401FCF, 0x03F8C068A01FC7, 0x03FEC068A01FF7, 0x03FFC060001FDD,
  0x03FFC060201FDE, 0x03FFC068401FDF, 0x0432006700219A, 0x0432406700219B,
  0x043280670021AE, 0x043A00670021CD, 0x043A40670021CF, 0x043A80670021CE,
  0x04406067002204, 0x04410067002209, 0x0441606700220C, 0x04446067002224,
  0x0444A067002226, 0x04478067002241, 0x04486067002244, 0x0448A067002247,
  0x04490067002249, 0x0449A06700226D, 0x044C2067002262, 0x044C8067002270,
  0x044CA067002271, 0x044E4067002274, 0x044E6067002275, 0x044EC067002278,
  0x044EE067002279, 0x044F4067002280, 0x044F6067002281, 0x044F80670022E0,
  0x044FA0670022E1, 0x04504067002284, 0x04506067002285, 0x0450C067002288,
  0x0450E067002289, 0x045220670022E2, 0x045240670022E3, 0x045440670022AC,
  0x045500670022AD, 0x045520670022AE, 0x045560670022AF, 0x045640670022EA,
  0x045660670022EB, 0x045680670022EC, 0x0456A0670022ED, 0x0608C613203094,
  0x0609661320304C, 0x0609A61320304E, 0x0609E613203050, 0x060A2613203052,
  0x060A6613203054, 0x060AA613203056, 0x060AE613203058, 0x060B261320305A,
  0x060B661320305C, 0x060BA61320305E, 0x060BE613203060, 0x060C2613203062,
  0x060C8613203065, 0x060CC613203067, 0x060D0613203069, 0x060DE613203070,
  0x060DE613403071, 0x060E4613203073, 0x060E4613403074, 0x060EA613203076,
  0x060EA613403077, 0x060F0613203079, 0x060F061340307A, 0x060F661320307C,
  0x060F661340307D, 0x0613A61320309E, 0x0614C6132030F4, 0x061566132030AC,
  0x0615A6132030AE, 0x0615E6132030B0, 0x061626132030B2, 0x061666132030B4,
  0x0616A6132030B6, 0x0616E6132030B8, 0x061726132030BA, 0x061766132030BC,
  0x0617A6132030BE, 0x0617E6132030C0, 0x061826132030C2, 0x061886132030C5,
  0x0618C6132030C7, 0x061906132030C9, 0x0619E6132030D0, 0x0619E6134030D1,
  0x061A46132030D3, 0x061A46134030D4, 0x061AA6132030D6, 0x061AA6134030D7,
  0x061B06132030D9, 0x061B06134030DA, 0x061B66132030DC, 0x061B66134030DD,
  0x061DE6132030F7, 0x061E06132030F8, 0x061E26132030F9, 0x061E46132030FA,
  0x061FA6132030FE]

/-- The characters with a combining class other than zero, in runs of one class: the first
character of the run in bits 29 to 49, the last in bits 8 to 28 and the class in bits 0 to 7.
Sorted by first character. -/
def combiningClasses : Array UInt64 := #[
  0x00000060000314E6, 0x00000062A00315E8, 0x00000062C00319DC, 0x0000006340031AE8,
  0x0000006360031BD8, 0x00000063800320DC, 0x00000064200322CA, 0x00000064600326DC,
  0x00000064E00328CA, 0x00000065200333DC, 0x0000006680033801, 0x0000006720033CDC,
  0x00000067A00344E6, 0x00000068A00345F0, 0x00000068C00346E6, 0x00000068E00349DC,
  0x0000006940034CE6, 0x00000069A0034EDC, 0x0000006A000352E6, 0x0000006A600356DC,
  0x0000006AE00357E6, 0x0000006B000358E8, 0x0000006B20035ADC, 0x0000006B60035BE6,
  0x0000006B80035CE9, 0x0000006BA0035EEA, 0x0000006BE0035FE9, 0x0000006C000361EA,
  0x0000006C400362E9, 0x0000006C60036FE6, 0x00000090600487E6, 0x000000B2200591DC,
  0x000000B2400595E6, 0x000000B2C00596DC, 0x000000B2E00599E6, 0x000000B340059ADE,
  0x000000B360059BDC, 0x000000B38005A1E6, 0x000000B44005A7DC, 0x000000B50005A9E6,
  0x000000B54005AADC, 0x000000B56005ACE6, 0x000000B5A005ADDE, 0x000000B5C005AEE4,
  0x000000B5E005AFE6, 0x000000B60005B00A, 0x000000B62005B10B, 0x000000B64005B20C,
  0x000000B66005B30D, 0x000000B68005B40E, 0x000000B6A005B50F, 0x000000B6C005B610,
  0x000000B6E005B711, 0x000000B70005B812, 0x000000B72005BA13, 0x000000B76005BB14,
  0x000000B78005BC15, 0x000000B7A005BD16, 0x000000B7E005BF17, 0x000000B82005C118,
  0x000000B84005C219, 0x000000B88005C4E6, 0x000000B8A005C5DC, 0x000000B8E005C712,
  0x000000C2000617E6, 0x000000C30006181E, 0x000000C32006191F, 0x000000C340061A20,
  0x000000C960064B1B, 0x000000C980064C1C, 0x000000C9A0064D1D, 0x000000C9C0064E1E,
  0x000000C9E0064F1F, 0x000000CA00065020, 0x000000CA20065121, 0x000000CA40065222,
  0x000000CA600654E6, 0x000000CAA00656DC, 0x000000CAE0065BE6, 0x000000CB80065CDC,
  0x000000CBA0065EE6, 0x000000CBE0065FDC, 0x000000CE00067023, 0x000000DAC006DCE6,
  0x000000DBE006E2E6, 0x000000DC6006E3DC, 0x000000DC8006E4E6, 0x000000DCE006E8E6,
  0x000000DD4006EADC, 0x000000DD6006ECE6, 0x000000DDA006EDDC, 0x000000E220071124,
  0x000000E6000730E6, 0x000000E6200731DC, 0x000000E6400733E6, 0x000000E6800734DC,
  0x000000E6A00736E6, 0x000000E6E00739DC, 0x000000E740073AE6, 0x000000E760073CDC,
  0x000000E7A0073DE6, 0x000000E7C0073EDC, 0x000000E7E00741E6, 0x000000E8400742DC,
  0x000000E8600743E6, 0x000000E8800744DC, 0x000000E8A00745E6, 0x000000E8C00746DC,
  0x000000E8E00747E6, 0x000000E9000748DC, 0x000000E920074AE6, 0x000000FD6007F1E6,
  0x000000FE4007F2DC, 0x000000FE6007F3E6, 0x000000FFA007FDDC, 0x00000102C00819E6,
  0x00000103600823E6, 0x00000104A00827E6, 0x0000010520082DE6, 0x0000010B20085BDC,
  0x00000113000898E6, 0x0000011320089BDC, 0x0000011380089FE6, 0x000001194008CEE6,
  0x00000119E008D3DC, 0x0000011A8008E1E6, 0x0000011C6008E3DC, 0x0000011C8008E5E6,
  0x0000011CC008E6DC, 0x0000011CE008E8E6, 0x0000011D2008E9DC, 0x0000011D4008ECE6,
  0x0000011DA008EFDC, 0x0000011E0008F01B, 0x0000011E2008F11C, 0x0000011E4008F21D,
  0x0000011E6008F5E6, 0x0000011EC008F6DC, 0x0000011EE008F8E6, 0x0000011F2008FADC,
  0x0000011F6008FFE6, 0x0000012780093C07, 0x00000129A0094D09, 0x0000012A200951E6,
  0x0000012A400952DC, 0x0000012A600954E6, 0x000001378009BC07, 0x00000139A009CD09,
  0x0000013FC009FEE6, 0x00000147800A3C07, 0x00000149A00A4D09, 0x00000157800ABC07,
  0x00000159A00ACD09, 0x00000167800B3C07, 0x00000169A00B4D09, 0x00000179A00BCD09,
  0x00000187800C3C07, 0x00000189A00C4D09, 0x0000018AA00C5554, 0x0000018AC00C565B,
  0x00000197800CBC07, 0x00000199A00CCD09, 0x000001A7600D3C09, 0x000001A9A00D4D09,
  0x000001B9400DCA09, 0x000001C7000E3967, 0x000001C7400E3A09, 0x000001C9000E4B6B,
  0x000001D7000EB976, 0x000001D7400EBA09, 0x000001D9000ECB7A, 0x000001E3000F19DC,
  0x000001E6A00F35DC, 0x000001E6E00F37DC, 0x000001E7200F39D8, 0x000001EE200F7181,
  0x000001EE400F7282, 0x000001EE800F7484, 0x000001EF400F7D82, 0x000001F0000F8082,
  0x000001F0400F83E6, 0x000001F0800F8409, 0x000001F0C00F87E6, 0x000001F8C00FC6DC,
  0x00000206E0103707, 0x0000020720103A09, 0x00000211A0108DDC, 0x0000026BA0135FE6,
  0x000002E280171509, 0x000002E680173409, 0x000002FA4017D209, 0x000002FBA017DDE6,
  0x000003152018A9E4, 0x00000327201939DE, 0x0000032740193AE6, 0x0000032760193BDC,
  0x00000342E01A17E6, 0x00000343001A18DC, 0x0000034C001A6009, 0x0000034EA01A7CE6,
  0x0000034FE01A7FDC, 0x00000356001AB4E6, 0x00000356A01ABADC, 0x00000357601ABCE6,
  0x00000357A01ABDDC, 0x00000357E01AC0DC, 0x00000358201AC2E6, 0x00000358601AC4DC,
  0x00000358A01AC9E6, 0x00000359401ACADC, 0x00000359601ACEE6, 0x00000366801B3407,
  0x00000368801B4409, 0x0000036D601B6BE6, 0x0000036D801B6CDC, 0x0000036DA01B73E6,
  0x00000375401BAB09, 0x0000037CC01BE607, 0x0000037E401BF309, 0x00000386E01C3707,
  0x0000039A001CD2E6, 0x0000039A801CD401, 0x0000039AA01CD9DC, 0x0000039B401CDBE6,
  0x0000039B801CDFDC, 0x0000039C001CE0E6, 0x0000039C401CE801, 0x0000039DA01CEDDC,
  0x0000039E801CF4E6, 0x0000039F001CF9E6, 0x000003B8001DC1E6, 0x000003B8401DC2DC,
  0x000003B8601DC9E6, 0x000003B9401DCADC, 0x000003B9601DCCE6, 0x000003B9A01DCDEA,
  0x000003B9C01DCED6, 0x000003B9E01DCFDC, 0x000003BA001DD0CA, 0x000003BA201DF5E6,
  0x000003BEC01DF6E8, 0x000003BEE01DF8E4, 0x000003BF201DF9DC, 0x000003BF401DFADA,
  0x000003BF601DFBE6, 0x000003BF801DFCE9, 0x000003BFA01DFDDC, 0x000003BFC01DFEE6,
  0x000003BFE01DFFDC, 0x0000041A0020D1E6, 0x0000041A4020D301, 0x0000041A8020D7E6,
  0x0000041B0020DA01, 0x0000041B6020DCE6, 0x0000041C2020E1E6, 0x0000041CA020E601,
  0x0000041CE020E7E6, 0x0000041D0020E8DC, 0x0000041D2020E9E6, 0x0000041D4020EB01,
  0x0000041D8020EFDC, 0x0000041E0020F0E6, 0x0000059DE02CF1E6, 0x000005AFE02D7F09,
  0x000005BC002DFFE6, 0x0000060540302ADA, 0x0000060560302BE4, 0x0000060580302CE8,
  0x00000605A0302DDE, 0x00000605C0302FE0, 0x0000061320309A08, 0x000014CDE0A66FE6,
  0x000014CE80A67DE6, 0x000014D3C0A69FE6, 0x000014DE00A6F1E6, 0x00001500C0A80609,
  0x0000150580A82C09, 0x0000151880A8C409, 0x0000151C00A8F1E6, 0x0000152560A92DDC,
  0x0000152A60A95309, 0x0000153660A9B307, 0x0000153800A9C009, 0x0000155600AAB0E6,
  0x0000155640AAB3E6, 0x0000155680AAB4DC, 0x00001556E0AAB8E6, 0x00001557C0AABFE6,
  0x0000155820AAC1E6, 0x0000155EC0AAF609, 0x0000157DA0ABED09, 0x00001F63C0FB1E1A,
  0x00001FC400FE26E6, 0x00001FC4E0FE2DDC, 0x00001FC5C0FE2FE6, 0x0000203FA101FDDC,
  0x0000205C0102E0DC, 0x0000206EC1037AE6, 0x00002141A10A0DDC, 0x00002141E10A0FE6,
  0x00002147010A38E6, 0x00002147210A3901, 0x00002147410A3ADC, 0x00002147E10A3F09,
  0x0000215CA10AE5E6, 0x0000215CC10AE6DC, 0x000021A4810D27E6, 0x000021D5610EACE6,
  0x000021DFA10EFFDC, 0x000021E8C10F47DC, 0x000021E9010F4AE6, 0x000021E9610F4BDC,
  0x000021E9810F4CE6, 0x000021E9A10F50DC, 0x000021F0410F82E6, 0x000021F0610F83DC,
  0x000021F0810F84E6, 0x000021F0A10F85DC, 0x00002208C1104609, 0x0000220E01107009,
  0x0000220FE1107F09, 0x000022172110B909, 0x000022174110BA07, 0x00002220011102E6,
  0x0000222661113409, 0x0000222E61117307, 0x000022380111C009, 0x000022394111CA07,
  0x00002246A1123509, 0x00002246C1123607, 0x0000225D2112E907, 0x0000225D4112EA09,
  0x0000226761133C07, 0x00002269A1134D09, 0x0000226CC1136CE6, 0x0000226E011374E6,
  0x0000228841144209, 0x00002288C1144607, 0x0000228BC1145EE6, 0x000022984114C209,
  0x000022986114C307, 0x000022B7E115BF09, 0x000022B80115C007, 0x000022C7E1163F09,
  0x000022D6C116B609, 0x000022D6E116B707, 0x000022E561172B09, 0x0000230721183909,
  0x0000230741183A07, 0x00002327A1193E09, 0x0000232861194307, 0x0000233C0119E009,
  0x00002346811A3409, 0x00002348E11A4709, 0x00002353211A9909, 0x00002387E11C3F09,
  0x000023A8411D4207, 0x000023A8811D4509, 0x000023B2E11D9709, 0x000023E8211F4209,
  0x00002D5E016AF401, 0x00002D66016B36E6, 0x00002DFE016FF106, 0x00003793C1BC9E01,
  0x00003A2CA1D166D8, 0x00003A2CE1D16901, 0x00003A2DA1D16DE2, 0x00003A2DC1D172D8,
  0x00003A2F61D182DC, 0x00003A30A1D189E6, 0x00003A3141D18BDC, 0x00003A3541D1ADE6,
  0x00003A4841D244E6, 0x00003C0001E006E6, 0x00003C0101E018E6, 0x00003C0361E021E6,
  0x00003C0461E024E6, 0x00003C04C1E02AE6, 0x00003C11E1E08FE6, 0x00003C2601E136E6,
  0x00003C55C1E2AEE6, 0x00003C5D81E2EFE6, 0x00003C9D81E4EDE8, 0x00003C9DC1E4EEDC,
  0x00003C9DE1E4EFE6, 0x00003D1A01E8D6DC, 0x00003D2881E949E6, 0x00003D2941E94A07]

/-- The characters that may join the character before them in a composition, in runs: the first
character of the run in bits 21 to 41 and the last in bits 0 to 20. Sorted by first character. -/
def composingSeconds : Array UInt64 := #[
  0x00060000304, 0x00060C0030C, 0x00061E0030F, 0x00062200311,
  0x00062600314, 0x0006360031B, 0x00064600328, 0x00065A0032E,
  0x00066000331, 0x00067000338, 0x00068400342, 0x00068A00345,
  0x000CA600655, 0x0012780093C, 0x00137C009BE, 0x0013AE009D7,
  0x00167C00B3E, 0x0016AC00B57, 0x00177C00BBE, 0x0017AE00BD7,
  0x0018AC00C56, 0x00198400CC2, 0x0019AA00CD6, 0x001A7C00D3E,
  0x001AAE00D57, 0x001B9400DCA, 0x001B9E00DCF, 0x001BBE00DDF,
  0x00205C0102E, 0x0022C201175, 0x002350011C2, 0x00366A01B35,
  0x0061320309A, 0x022174110BA, 0x02224E11127, 0x02267C1133E,
  0x0226AE11357, 0x022960114B0, 0x022974114BA, 0x02297A114BD,
  0x022B5E115AF, 0x02326011930]

/-- The characters that never stand in composed text, because composition always replaces them
(their quick check for the composed form is "no"), in runs: the first character of the run in
bits 21 to 41 and the last in bits 0 to 20. Sorted by first character. -/
def uncomposedRuns : Array UInt64 := #[
  0x00068000341, 0x00068600344, 0x0006E800374, 0x0006FC0037E,
  0x00070E00387, 0x0012B00095F, 0x0013B8009DD, 0x0013BE009DF,
  0x00146600A33, 0x00146C00A36, 0x0014B200A5B, 0x0014BC00A5E,
  0x0016B800B5D, 0x001E8600F43, 0x001E9A00F4D, 0x001EA400F52,
  0x001EAE00F57, 0x001EB800F5C, 0x001ED200F69, 0x001EE600F73,
  0x001EEA00F76, 0x001EF000F78, 0x001F0200F81, 0x001F2600F93,
  0x001F3A00F9D, 0x001F4400FA2, 0x001F4E00FA7, 0x001F5800FAC,
  0x001F7200FB9, 0x003EE201F71, 0x003EE601F73, 0x003EEA01F75,
  0x003EEE01F77, 0x003EF201F79, 0x003EF601F7B, 0x003EFA01F7D,
  0x003F7601FBB, 0x003F7C01FBE, 0x003F9201FC9, 0x003F9601FCB,
  0x003FA601FD3, 0x003FB601FDB, 0x003FC601FE3, 0x003FD601FEB,
  0x003FDC01FEF, 0x003FF201FF9, 0x003FF601FFB, 0x003FFA01FFD,
  0x00400002001, 0x00424C02126, 0x0042540212B, 0x0046520232A,
  0x0055B802ADC, 0x01F2000FA0D, 0x01F4200FA10, 0x01F4240FA12,
  0x01F42A0FA1E, 0x01F4400FA20, 0x01F4440FA22, 0x01F44A0FA26,
  0x01F4540FA6D, 0x01F4E00FAD9, 0x01F63A0FB1D, 0x01F63E0FB1F,
  0x01F6540FB36, 0x01F6700FB3C, 0x01F67C0FB3E, 0x01F6800FB41,
  0x01F6860FB44, 0x01F68C0FB4E, 0x03A2BC1D164, 0x03A3761D1C0,
  0x05F0002FA1D]

/-- How many non-starters begin and end each character's compatibility decomposition, for the
characters where either is not zero, in runs of equal counts: the first character of the run in
bits 29 to 49, the last in bits 8 to 28, the leading count in bits 4 to 7 and the trailing count
in bits 0 to 3. Hangul syllables are left out. Sorted by first character. -/
def nonStarterCounts : Array UInt64 := #[
  0x000000150000A801, 0x00000015E000AF01, 0x000000168000B401, 0x000000170000B801,
  0x000000180000C501, 0x00000018E000CF01, 0x0000001A2000D601, 0x0000001B2000DD01,
  0x0000001C0000E501, 0x0000001CE000EF01, 0x0000001E2000F601, 0x0000001F2000FD01,
  0x0000001FE0010F01, 0x0000002240012501, 0x0000002500013001, 0x0000002680013701,
  0x0000002720013E01, 0x0000002860014801, 0x0000002980015101, 0x0000002A80016501,
  0x0000002D00017E01, 0x000000340001A101, 0x00000035E001B001, 0x000000388001C601,
  0x00000039A001D401, 0x0000003AA001DC02, 0x0000003BC001E102, 0x0000003C4001E301,
  0x0000003CC001EB01, 0x0000003D8001ED02, 0x0000003DC001F001, 0x0000003E8001F501,
  0x0000003F0001F901, 0x0000003F4001FB02, 0x0000003F80021B01, 0x00000043C0021F01,
  0x00000044C0022901, 0x0000004540022D02, 0x00000045C0022F01, 0x0000004600023102,
  0x0000004640023301, 0x0000005B0002DD01, 0x0000006000034311, 0x0000006880034422,
  0x00000068A0034E11, 0x0000006A00036F11, 0x0000006F40037A01, 0x0000007080038401,
  0x00000070A0038502, 0x00000070C0038601, 0x0000007100038A01, 0x0000007180038C01,
  0x00000071C0038F01, 0x0000007200039002, 0x000000754003AF01, 0x000000760003B002,
  0x000000794003CE01, 0x0000007A6003D401, 0x0000008000040101, 0x0000008060040301,
  0x00000080E0040701, 0x0000008180040E01, 0x0000008320041901, 0x0000008720043901,
  0x0000008A00045101, 0x0000008A60045301, 0x0000008AE0045701, 0x0000008B80045E01,
  0x0000008EC0047701, 0x0000009060048711, 0x000000982004C201, 0x0000009A0004D301,
  0x0000009AC004D701, 0x0000009B4004DF01, 0x0000009C4004E701, 0x0000009D4004F501,
  0x0000009F0004F901, 0x000000B22005BD11, 0x000000B7E005BF11, 0x000000B82005C211,
  0x000000B88005C511, 0x000000B8E005C711, 0x000000C200061A11, 0x000000C440062601,
  0x000000C960065F11, 0x000000CE00067011, 0x000000D80006C001, 0x000000D84006C201,
  0x000000DA6006D301, 0x000000DAC006DC11, 0x000000DBE006E411, 0x000000DCE006E811,
  0x000000DD4006ED11, 0x000000E220071111, 0x000000E600074A11, 0x000000FD6007F311,
  0x000000FFA007FD11, 0x00000102C0081911, 0x0000010360082311, 0x00000104A0082711,
  0x0000010520082D11, 0x0000010B20085B11, 0x0000011300089F11, 0x000001194008E111,
  0x0000011C6008FF11, 0x0000012520092901, 0x0000012620093101, 0x0000012680093401,
  0x0000012780093C11, 0x00000129A0094D11, 0x0000012A20095411, 0x0000012B00095F01,
  0x000001378009BC11, 0x00000137C009BE11, 0x000001396009CC01, 0x00000139A009CD11,
  0x0000013AE009D711, 0x0000013B8009DD01, 0x0000013BE009DF01, 0x0000013FC009FE11,
  0x00000146600A3301, 0x00000146C00A3601, 0x00000147800A3C11, 0x00000149A00A4D11,
  0x0000014B200A5B01, 0x0000014BC00A5E01, 0x00000157800ABC11, 0x00000159A00ACD11,
  0x00000167800B3C11, 0x00000167C00B3E11, 0x00000169000B4801, 0x00000169600B4C01,
  0x00000169A00B4D11, 0x0000016AC00B5711, 0x0000016B800B5D01, 0x00000172800B9401,
  0x00000177C00BBE11, 0x00000179400BCC01, 0x00000179A00BCD11, 0x0000017AE00BD711,
  0x00000187800C3C11, 0x00000189000C4801, 0x00000189A00C4D11, 0x0000018AA00C5611,
  0x00000197800CBC11, 0x00000198000CC001, 0x00000198400CC211, 0x00000198E00CC801,
  0x00000199400CCA01, 0x00000199600CCB02, 0x00000199A00CCD11, 0x0000019AA00CD611,
  0x000001A7600D3C11, 0x000001A7C00D3E11, 0x000001A9400D4C01, 0x000001A9A00D4D11,
  0x000001AAE00D5711, 0x000001B9400DCA11, 0x000001B9E00DCF11, 0x000001BB400DDA01,
  0x000001BB800DDC01, 0x000001BBA00DDD02, 0x000001BBC00DDE01, 0x000001BBE00DDF11,
  0x000001C7000E3A11, 0x000001C9000E4B11, 0x000001D7000EBA11, 0x000001D9000ECB11,
  0x000001E3000F1911, 0x000001E6A00F3511, 0x000001E6E00F3711, 0x000001E7200F3911,
  0x000001EE200F7211, 0x000001EE600F7322, 0x000001EE800F7411, 0x000001EEA00F7522,
  0x000001EEC00F7601, 0x000001EEE00F7702, 0x000001EF000F7801, 0x000001EF200F7902,
  0x000001EF400F7D11, 0x000001F0000F8011, 0x000001F0200F8122, 0x000001F0400F8411,
  0x000001F0C00F8711, 0x000001F8C00FC611, 0x00000204C0102601, 0x00000205C0102E11,
  0x00000206E0103711, 0x0000020720103A11, 0x00000211A0108D11, 0x0000022C20117511,
  0x000002350011C211, 0x0000026BA0135F11, 0x000002E280171511, 0x000002E680173411,
  0x000002FA4017D211, 0x000002FBA017DD11, 0x000003152018A911, 0x0000032720193B11,
  0x00000342E01A1811, 0x0000034C001A6011, 0x0000034EA01A7C11, 0x0000034FE01A7F11,
  0x00000356001ABD11, 0x00000357E01ACE11, 0x00000360C01B0601, 0x00000361001B0801,
  0x00000361401B0A01, 0x00000361801B0C01, 0x00000361C01B0E01, 0x00000362401B1201,
  0x00000366801B3511, 0x00000367601B3B01, 0x00000367A01B3D01, 0x00000368001B4101,
  0x00000368601B4301, 0x00000368801B4411, 0x0000036D601B7311, 0x00000375401BAB11,
  0x0000037CC01BE611, 0x0000037E401BF311, 0x00000386E01C3711, 0x0000039A001CD211,
  0x0000039A801CE011, 0x0000039C401CE811, 0x0000039DA01CED11, 0x0000039E801CF411,
  0x0000039F001CF911, 0x000003B8001DFF11, 0x000003C0001E0701, 0x000003C1001E0902,
  0x000003C1401E1301, 0x000003C2801E1702, 0x000003C3001E1B01, 0x000003C3801E1D02,
  0x000003C3C01E2D01, 0x000003C5C01E2F02, 0x000003C6001E3701, 0x000003C7001E3902,
  0x000003C7401E4B01, 0x000003C9801E5302, 0x000003CA801E5B01, 0x000003CB801E5D02,
  0x000003CBC01E6301, 0x000003CC801E6902, 0x000003CD401E7701, 0x000003CF001E7B02,
  0x000003CF801E9901, 0x000003D3601E9B01, 0x000003D4001EA301, 0x000003D4801EB702,
  0x000003D7001EBD01, 0x000003D7C01EC702, 0x000003D9001ECF01, 0x000003DA001EE302,
  0x000003DC801EE701, 0x000003DD001EF102, 0x000003DE401EF901, 0x000003E0001F0101,
  0x000003E0401F0702, 0x000003E1001F0901, 0x000003E1401F0F02, 0x000003E2001F1101,
  0x000003E2401F1502, 0x000003E3001F1901, 0x000003E3401F1D02, 0x000003E4001F2101,
  0x000003E4401F2702, 0x000003E5001F2901, 0x000003E5401F2F02, 0x000003E6001F3101,
  0x000003E6401F3702, 0x000003E7001F3901, 0x000003E7401F3F02, 0x000003E8001F4101,
  0x000003E8401F4502, 0x000003E9001F4901, 0x000003E9401F4D02, 0x000003EA001F5101,
  0x000003EA401F5702, 0x000003EB201F5901, 0x000003EB601F5B02, 0x000003EBA01F5D02,
  0x000003EBE01F5F02, 0x000003EC001F6101, 0x000003EC401F6702, 0x000003ED001F6901,
  0x000003ED401F6F02, 0x000003EE001F7D01, 0x000003F0001F8102, 0x000003F0401F8703,
  0x000003F1001F8902, 0x000003F1401F8F03, 0x000003F2001F9102, 0x000003F2401F9703,
  0x000003F3001F9902, 0x000003F3401F9F03, 0x000003F4001FA102, 0x000003F4401FA703,
  0x000003F5001FA902, 0x000003F5401FAF03, 0x000003F6001FB101, 0x000003F6401FB202,
  0x000003F6601FB301, 0x000003F6801FB402, 0x000003F6C01FB601, 0x000003F6E01FB702,
  0x000003F7001FBD01, 0x000003F7E01FC001, 0x000003F8201FC202, 0x000003F8601FC301,
  0x000003F8801FC402, 0x000003F8C01FC601, 0x000003F8E01FC702, 0x000003F9001FCC01,
  0x000003F9A01FCF02, 0x000003FA001FD101, 0x000003FA401FD302, 0x000003FAC01FD601,
  0x000003FAE01FD702, 0x000003FB001FDB01, 0x000003FBA01FDF02, 0x000003FC001FE101,
  0x000003FC401FE302, 0x000003FC801FE601, 0x000003FCE01FE702, 0x000003FD001FEC01,
  0x000003FDA01FEE02, 0x000003FE401FF202, 0x000003FE601FF301, 0x000003FE801FF402,
  0x000003FEC01FF601, 0x000003FEE01FF702, 0x000003FF001FFE01, 0x00000402E0201701,
  0x00000407C0203E01, 0x0000041A0020DC11, 0x0000041C2020E111, 0x0000041CA020F011,
  0x0000042560212B01, 0x0000043340219B01, 0x00000435C021AE01, 0x00000439A021CF01,
  0x0000044080220401, 0x0000044120220901, 0x0000044180220C01, 0x0000044480222401,
  0x00000444C0222601, 0x0000044820224101, 0x0000044880224401, 0x00000448E0224701,
  0x0000044920224901, 0x0000044C00226001, 0x0000044C40226201, 0x0000044DA0227101,
  0x0000044E80227501, 0x0000044F00227901, 0x0000045000228101, 0x0000045080228501,
  0x0000045100228901, 0x000004558022AF01, 0x0000045C0022E301, 0x0000045D4022ED01,
  0x0000055B802ADC01, 0x0000059DE02CF111, 0x000005AFE02D7F11, 0x000005BC002DFF11,
  0x0000060540302F11, 0x0000060980304C01, 0x00000609C0304E01, 0x0000060A00305001,
  0x0000060A40305201, 0x0000060A80305401, 0x0000060AC0305601, 0x0000060B00305801,
  0x0000060B40305A01, 0x0000060B80305C01, 0x0000060BC0305E01, 0x0000060C00306001,
  0x0000060C40306201, 0x0000060CA0306501, 0x0000060CE0306701, 0x0000060D20306901,
  0x0000060E00307101, 0x0000060E60307401, 0x0000060EC0307701, 0x0000060F20307A01,
  0x0000060F80307D01, 0x0000061280309401, 0x0000061320309A11, 0x0000061360309C01,
  0x00000613C0309E01, 0x000006158030AC01, 0x00000615C030AE01, 0x000006160030B001,
  0x000006164030B201, 0x000006168030B401, 0x00000616C030B601, 0x000006170030B801,
  0x000006174030BA01, 0x000006178030BC01, 0x00000617C030BE01, 0x000006180030C001,
  0x000006184030C201, 0x00000618A030C501, 0x00000618E030C701, 0x000006192030C901,
  0x0000061A0030D101, 0x0000061A6030D401, 0x0000061AC030D701, 0x0000061B2030DA01,
  0x0000061B8030DD01, 0x0000061E8030F401, 0x0000061EE030FA01, 0x0000061FC030FE01,
  0x0000062660313311, 0x00000626A0313611, 0x0000062740313F11, 0x00000629E0316311,
  0x0000064DC0327E01, 0x0000066080330401, 0x00000660E0330701, 0x0000066200331001,
  0x00000663C0331E01, 0x0000066420332101, 0x0000066640333201, 0x0000066760333B01,
  0x0000066800334001, 0x0000066960334B01, 0x00000669C0334E01, 0x000014CDE0A66F11,
  0x000014CE80A67D11, 0x000014D3C0A69F11, 0x000014DE00A6F111, 0x00001500C0A80611,
  0x0000150580A82C11, 0x0000151880A8C411, 0x0000151C00A8F111, 0x0000152560A92D11,
  0x0000152A60A95311, 0x0000153660A9B311, 0x0000153800A9C011, 0x0000155600AAB011,
  0x0000155640AAB411, 0x00001556E0AAB811, 0x00001557C0AABF11, 0x0000155820AAC111,
  0x0000155EC0AAF611, 0x0000157DA0ABED11, 0x00001F63A0FB1D01, 0x00001F63C0FB1E11,
  0x00001F63E0FB1F01, 0x00001F6540FB2B01, 0x00001F6580FB2D02, 0x00001F65C0FB3601,
  0x00001F6700FB3C01, 0x00001F67C0FB3E01, 0x00001F6800FB4101, 0x00001F6860FB4401,
  0x00001F68C0FB4E01, 0x00001F7480FBA501, 0x00001F7600FBB101, 0x00001F8B60FC5D01,
  0x00001F8BC0FC6302, 0x00001F9200FC9001, 0x00001F9B20FCD901, 0x00001F9E40FCF402,
  0x00001FA780FD3D01, 0x00001FC400FE2F11, 0x00001FC920FE4C01, 0x00001FCE00FE7201,
  0x00001FCE80FE7401, 0x00001FCEC0FE7F01, 0x00001FD020FE8C01, 0x00001FDEA0FEFA01,
  0x00001FF3C0FF9F11, 0x00001FF460FFA311, 0x00001FF4A0FFA611, 0x00001FF540FFAF11,
  0x00001FF840FFC711, 0x00001FF940FFCF11, 0x00001FFA40FFD711, 0x00001FFB40FFDC11,
  0x00001FFC60FFE301, 0x0000203FA101FD11, 0x0000205C0102E011, 0x0000206EC1037A11,
  0x00002141A10A0D11, 0x00002141E10A0F11, 0x00002147010A3A11, 0x00002147E10A3F11,
  0x0000215CA10AE611, 0x000021A4810D2711, 0x000021D5610EAC11, 0x000021DFA10EFF11,
  0x000021E8C10F5011, 0x000021F0410F8511, 0x00002208C1104611, 0x0000220E01107011,
  0x0000220FE1107F11, 0x0000221341109A01, 0x0000221381109C01, 0x000022156110AB01,
  0x000022172110BA11, 0x0000222001110211, 0x00002224E1112711, 0x00002225C1112F01,
  0x0000222661113411, 0x0000222E61117311, 0x000022380111C011, 0x000022394111CA11,
  0x00002246A1123611, 0x0000225D2112EA11, 0x0000226761133C11, 0x00002267C1133E11,
  0x0000226961134C01, 0x00002269A1134D11, 0x0000226AE1135711, 0x0000226CC1136C11,
  0x0000226E01137411, 0x0000228841144211, 0x00002288C1144611, 0x0000228BC1145E11,
  0x000022960114B011, 0x000022974114BA11, 0x000022976114BC01, 0x00002297A114BD11,
  0x00002297C114BE01, 0x000022984114C311, 0x000022B5E115AF11, 0x000022B74115BB01,
  0x000022B7E115C011, 0x000022C7E1163F11, 0x000022D6C116B711, 0x000022E561172B11,
  0x0000230721183A11, 0x0000232601193011, 0x0000232701193801, 0x00002327A1193E11,
  0x0000232861194311, 0x0000233C0119E011, 0x00002346811A3411, 0x00002348E11A4711,
  0x00002353211A9911, 0x00002387E11C3F11, 0x000023A8411D4211, 0x000023A8811D4511,
  0x000023B2E11D9711, 0x000023E8211F4211, 0x00002D5E016AF411, 0x00002D66016B3611,
  0x00002DFE016FF111, 0x00003793C1BC9E11, 0x00003A2BC1D15F01, 0x00003A2C01D16402,
  0x00003A2CA1D16911, 0x00003A2DA1D17211, 0x00003A2F61D18211, 0x00003A30A1D18B11,
  0x00003A3541D1AD11, 0x00003A3761D1BC01, 0x00003A37A1D1C002, 0x00003A4841D24411,
  0x00003C0001E00611, 0x00003C0101E01811, 0x00003C0361E02111, 0x00003C0461E02411,
  0x00003C04C1E02A11, 0x00003C11E1E08F11, 0x00003C2601E13611, 0x00003C55C1E2AE11,
  0x00003C5D81E2EF11, 0x00003C9D81E4EF11, 0x00003D1A01E8D611, 0x00003D2881E94A11,
  0x00003E4261F21301]

end Lanes.Text
