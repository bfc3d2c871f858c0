/-!
# Tables of character sets

The upper halves of sets in which each character is one byte, and the texts that may stand for
characters that a set lacks. The lower halves are the same in all sets.
-/

namespace LinkWatch.Host.Utility

/-- The names of sets, with the characters of the last bytes; a replacement character stands for a
byte without meaning. -/
def bytePages : List (List String × String) := [
  (["ISO-8859-2", "ISO8859-2", "ISO88592", "ISO_8859-2", "ISO_8859-2:1987",
      "ISO-IR-101", "LATIN2", "L2", "8859_2", "CP912"],
    "\u00a0Ą˘Ł¤ĽŚ§¨ŠŞŤŹ\u00adŽŻ°ą˛ł´ľśˇ¸šşťź˝žżŔÁÂĂÄĹĆÇČÉĘËĚÍÎĎĐŃŇÓÔŐÖ×ŘŮÚŰÜÝŢßŕáâăäĺćçčé"
      ++ "ęëěíîďđńňóôőö÷řůúűüýţ˙"),
  (["ISO-8859-5", "ISO8859-5", "ISO88595", "ISO_8859-5", "ISO_8859-5:1988",
      "ISO-IR-144", "CYRILLIC", "8859_5", "CP915"],
    "\u00a0ЁЂЃЄЅІЇЈЉЊЋЌ\u00adЎЏАБВГДЕЖЗИЙКЛМНОПРСТУФХЦЧШЩЪЫЬЭЮЯабвгдежзийклмнопрстуфхцчшщ"
      ++ "ъыьэюя№ёђѓєѕіїјљњћќ§ўџ"),
  (["ISO-8859-7", "ISO8859-7", "ISO88597", "ISO_8859-7", "ISO_8859-7:1987",
      "ISO_8859-7:2003", "ISO-IR-126", "GREEK", "GREEK8", "8859_7", "CP813"],
    "\u00a0‘’£€₯¦§¨©ͺ«¬\u00ad\ufffd―°±²³΄΅Ά·ΈΉΊ»Ό½ΎΏΐΑΒΓΔΕΖΗΘΙΚΛΜΝΞΟΠΡ\ufffdΣΤΥΦΧΨΩΪΫάέήί"
      ++ "ΰαβγδεζηθικλμνξοπρςστυφχψωϊϋόύώ\ufffd"),
  (["ISO-8859-9", "ISO8859-9", "ISO88599", "ISO_8859-9", "ISO_8859-9:1989",
      "ISO-IR-148", "LATIN5", "L5", "8859_9", "CP920"],
    "\u00a0¡¢£¤¥¦§¨©ª«¬\u00ad®¯°±²³´µ¶·¸¹º»¼½¾¿ÀÁÂÃÄÅÆÇÈÉÊËÌÍÎÏĞÑÒÓÔÕÖ×ØÙÚÛÜİŞßàáâãäåæçèé"
      ++ "êëìíîïğñòóôõö÷øùúûüışÿ"),
  (["ISO-8859-15", "ISO8859-15", "ISO885915", "ISO_8859-15", "ISO_8859-15:1998",
      "ISO-IR-203", "LATIN-9"],
    "\u00a0¡¢£€¥Š§š©ª«¬\u00ad®¯°±²³Žµ¶·ž¹º»ŒœŸ¿ÀÁÂÃÄÅÆÇÈÉÊËÌÍÎÏÐÑÒÓÔÕÖ×ØÙÚÛÜÝÞßàáâãäåæçèé"
      ++ "êëìíîïðñòóôõö÷øùúûüýþÿ"),
  (["CP1250", "WINDOWS-1250"],
    "€\ufffd‚\ufffd„…†‡\ufffd‰Š‹ŚŤŽŹ\ufffd‘’“”•–—\ufffd™š›śťžź\u00a0ˇ˘Ł¤Ą¦§¨©Ş«¬\u00ad®Ż°"
      ++ "±˛ł´µ¶·¸ąş»Ľ˝ľżŔÁÂĂÄĹĆÇČÉĘËĚÍÎĎĐŃŇÓÔŐÖ×ŘŮÚŰÜÝŢßŕáâăäĺćçčéęëěíîďđńňóôőö÷řůúűüýţ˙"),
  (["CP1251", "WINDOWS-1251"],
    "ЂЃ‚ѓ„…†‡€‰Љ‹ЊЌЋЏђ‘’“”•–—\ufffd™љ›њќћџ\u00a0ЎўЈ¤Ґ¦§Ё©Є«¬\u00ad®Ї°±Ііґµ¶·ё№є»јЅѕїАБВГД"
      ++ "ЕЖЗИЙКЛМНОПРСТУФХЦЧШЩЪЫЬЭЮЯабвгдежзийклмнопрстуфхцчшщъыьэюя"),
  (["CP1252", "WINDOWS-1252"],
    "€\ufffd‚ƒ„…†‡ˆ‰Š‹Œ\ufffdŽ\ufffd\ufffd‘’“”•–—˜™š›œ\ufffdžŸ\u00a0¡¢£¤¥¦§¨©ª«¬\u00ad®¯°"
      ++ "±²³´µ¶·¸¹º»¼½¾¿ÀÁÂÃÄÅÆÇÈÉÊËÌÍÎÏÐÑÒÓÔÕÖ×ØÙÚÛÜÝÞßàáâãäåæçèéêëìíîïðñòóôõö÷øùúûüýþÿ"),
  (["CP437", "437"],
    "ÇüéâäàåçêëèïîìÄÅÉæÆôöòûùÿÖÜ¢£¥₧ƒáíóúñÑªº¿⌐¬½¼¡«»░▒▓│┤╡╢╖╕╣║╗╝╜╛┐└┴┬├─┼╞╟╚╔╩╦╠═╬╧╨╤╥╙"
      ++ "╘╒╓╫╪┘┌█▄▌▐▀αßΓπΣσµτΦΘΩδ∞φε∩≡±≥≤⌠⌡÷≈°∙·√ⁿ²■\u00a0"),
  (["CP850", "850"],
    "ÇüéâäàåçêëèïîìÄÅÉæÆôöòûùÿÖÜø£Ø×ƒáíóúñÑªº¿®¬½¼¡«»░▒▓│┤ÁÂÀ©╣║╗╝¢¥┐└┴┬├─┼ãÃ╚╔╩╦╠═╬¤ðÐÊË"
      ++ "ÈıÍÎÏ┘┌█▄¦Ì▀ÓßÔÒõÕµþÞÚÛÙýÝ¯´\u00ad±‗¾¶§÷¸°¨·¹³²■\u00a0"),
  (["CP866", "866"],
    "АБВГДЕЖЗИЙКЛМНОПРСТУФХЦЧШЩЪЫЬЭЮЯабвгдежзийклмноп░▒▓│┤╡╢╖╕╣║╗╝╜╛┐└┴┬├─┼╞╟╚╔╩╦╠═╬╧╨╤╥╙"
      ++ "╘╒╓╫╪┘┌█▄▌▐▀рстуфхцчшщъыьэюяЁёЄєЇїЎў°∙·√№¤■\u00a0"),
  (["KOI8-R", "KOI8R"],
    "─│┌┐└┘├┤┬┴┼▀▄█▌▐░▒▓⌠■∙√≈≤≥\u00a0⌡°²·÷═║╒ё╓╔╕╖╗╘╙╚╛╜╝╞╟╠╡Ё╢╣╤╥╦╧╨╩╪╫╬©юабцдефгхийклмн"
      ++ "опярстужвьызшэщчъЮАБЦДЕФГХИЙКЛМНОПЯРСТУЖВЬЫЗШЭЩЧЪ"),
  (["KOI8-U", "KOI8U"],
    "─│┌┐└┘├┤┬┴┼▀▄█▌▐░▒▓⌠■∙√≈≤≥\u00a0⌡°²·÷═║╒ёє╔ії╗╘╙╚╛ґ╝╞╟╠╡ЁЄ╣ІЇ╦╧╨╩╪Ґ╬©юабцдефгхийклмн"
      ++ "опярстужвьызшэщчъЮАБЦДЕФГХИЙКЛМНОПЯРСТУЖВЬЫЗШЭЩЧЪ")]

/-- The texts that stand for characters, by their codes. -/
def substitutions : List (Nat × String) :=
  [(0xa0, " "), (0xa9, "(C)"), (0xab, "<<"), (0xad, "-"), (0xae, "(R)"), (0xb5, "u"), (0xb8, ","),
    (0xbb, ">>"), (0xbc, " 1/4 "), (0xbd, " 1/2 "), (0xbe, " 3/4 "), (0xc6, "AE"), (0xd7, "x"),
    (0xdf, "ss"), (0xe6, "ae"), (0x132, "IJ"), (0x133, "ij"), (0x149, "'n"), (0x152, "OE"),
    (0x153, "oe"), (0x17f, "s"), (0x1c7, "LJ"), (0x1c8, "Lj"), (0x1c9, "lj"), (0x1ca, "NJ"),
    (0x1cb, "Nj"), (0x1cc, "nj"), (0x1f1, "DZ"), (0x1f2, "Dz"), (0x1f3, "dz"), (0x2bc, "'"),
    (0x2c6, "^"), (0x2c8, "'"), (0x2cb, "\x60"), (0x2cd, "_"), (0x2d0, ":"), (0x2dc, "~"),
    (0x2002, " "), (0x2003, " "), (0x2004, " "), (0x2005, " "), (0x2006, " "), (0x2008, " "),
    (0x2009, " "), (0x200a, " "), (0x200b, ""), (0x2010, "-"), (0x2011, "-"), (0x2012, "-"),
    (0x2013, "-"), (0x2014, "--"), (0x2015, "-"), (0x2018, "'"), (0x2019, "'"), (0x201a, ","),
    (0x201b, "'"), (0x201c, "\""), (0x201d, "\""), (0x201e, ",,"), (0x201f, "\""), (0x2020, "+"),
    (0x2022, "o"), (0x2024, "."), (0x2025, ".."), (0x2026, "..."), (0x202f, " "),
    (0x2035, "\x60"), (0x2036, "\x60\x60"), (0x2037, "\x60\x60\x60"), (0x2039, "<"),
    (0x203a, ">"), (0x203c, "!!"), (0x2044, "/"), (0x2047, "??"), (0x2048, "?!"), (0x2049, "!?"),
    (0x205f, " "), (0x2060, ""), (0x2061, ""), (0x2062, ""), (0x2063, ""), (0x20a1, "C="),
    (0x20a8, "Rs"), (0x20ac, "EUR"), (0x20b9, "INR"), (0x2100, "a/c"), (0x2101, "a/s"),
    (0x2102, "C"), (0x2105, "c/o"), (0x2106, "c/u"), (0x210a, "g"), (0x210b, "H"), (0x210c, "H"),
    (0x210d, "H"), (0x210e, "h"), (0x2110, "I"), (0x2111, "I"), (0x2112, "L"), (0x2113, "l"),
    (0x2115, "N"), (0x2116, "No"), (0x2119, "P"), (0x211a, "Q"), (0x211b, "R"), (0x211c, "R"),
    (0x211d, "R"), (0x2121, "TEL"), (0x2122, "(TM)"), (0x2124, "Z"), (0x2126, "Ohm"),
    (0x2128, "Z"), (0x212c, "B"), (0x212d, "C"), (0x212e, "e"), (0x212f, "e"), (0x2130, "E"),
    (0x2131, "F"), (0x2133, "M"), (0x2134, "o"), (0x2139, "i"), (0x2145, "D"), (0x2146, "d"),
    (0x2147, "e"), (0x2148, "i"), (0x2149, "j"), (0x2153, " 1/3 "), (0x2154, " 2/3 "),
    (0x2155, " 1/5 "), (0x2156, " 2/5 "), (0x2157, " 3/5 "), (0x2158, " 4/5 "), (0x2159, " 1/6 "),
    (0x215a, " 5/6 "), (0x215b, " 1/8 "), (0x215c, " 3/8 "), (0x215d, " 5/8 "), (0x215e, " 7/8 "),
    (0x215f, " 1/"), (0x2160, "I"), (0x2161, "II"), (0x2162, "III"), (0x2163, "IV"),
    (0x2164, "V"), (0x2165, "VI"), (0x2166, "VII"), (0x2167, "VIII"), (0x2168, "IX"),
    (0x2169, "X"), (0x216a, "XI"), (0x216b, "XII"), (0x216c, "L"), (0x216d, "C"), (0x216e, "D"),
    (0x216f, "M"), (0x2170, "i"), (0x2171, "ii"), (0x2172, "iii"), (0x2173, "iv"), (0x2174, "v"),
    (0x2175, "vi"), (0x2176, "vii"), (0x2177, "viii"), (0x2178, "ix"), (0x2179, "x"),
    (0x217a, "xi"), (0x217b, "xii"), (0x217c, "l"), (0x217d, "c"), (0x217e, "d"), (0x217f, "m"),
    (0x2190, "<-"), (0x2192, "->"), (0x2194, "<->"), (0x21d0, "<="), (0x21d2, "=>"),
    (0x21d4, "<=>"), (0x2212, "-"), (0x2215, "/"), (0x2216, "\\"), (0x2217, "*"), (0x2223, "|"),
    (0x2236, ":"), (0x223c, "~"), (0x2264, "<="), (0x2265, ">="), (0xfb00, "ff"), (0xfb01, "fi"),
    (0xfb02, "fl"), (0xfb03, "ffi"), (0xfb04, "ffl"), (0xfb06, "st")]

end LinkWatch.Host.Utility
