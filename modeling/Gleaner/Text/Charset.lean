import Gleaner.Text.Blank
import Gleaner.Text.Encoding

/-!
Encodings by name. Tables give the characters of the octets from 128 on, up to the last one that has
a character; an octet without one has the replacement character in its place.
-/

namespace Gleaner.Text

/-- What reading by an encoding comes to, if every octet has to be a character. -/
inductive Codec where
  | encoding (e : Encoding)
  /-- Every octet is a character, but those below 128 are not the characters of ASCII. -/
  | foreign
  /-- Characters take several octets. -/
  | several
  /-- What octets are turned into is no text. -/
  | noText
  /-- Octets are not read at all, for the given reason. -/
  | refusing (reason : String)
  /-- Some octet is refused. -/
  | failing (message : String)
  deriving DecidableEq

namespace Codec

def ascii : Codec := encoding .ascii

/-- Every octet is the code point of its character, by a table like any other. -/
def straight : Codec :=
  encoding (.table (String.ofList ((List.range 128).map fun n => Char.ofNat (128 + n))))

def table (high : String) : Codec := encoding (.table high)

/-- A table whose first 32 octets are control characters. -/
def upper (high : String) : Codec := table (controls ++ high)

end Codec

structure Charset where
  name : String
  aliases : List String
  codec : Codec

/-- Encodings of which every octet below 128 is a character of ASCII. -/
def tables : List Charset := [
  ⟨"ascii", ["646", "ansi_x3.4_1968", "ansi_x3_4_1968", "ansi_x3.4_1986", "cp367", "csascii",
    "ibm367", "iso646_us", "iso_646.irv_1991", "iso_ir_6", "us", "us_ascii"], .ascii⟩,
  ⟨"charmap", [], .straight⟩,
  ⟨"cp1006", [], .upper
      ("\u00A0\u06F0\u06F1\u06F2\u06F3\u06F4\u06F5\u06F6\u06F7\u06F8\u06F9\u060C\u061B\u00AD" ++
        "\u061F\uFE81\uFE8D\uFE8E\uFE8E\uFE8F\uFE91\uFB56\uFB58\uFE93\uFE95\uFE97\uFB66\uFB68" ++
        "\uFE99\uFE9B\uFE9D\uFE9F\uFB7A\uFB7C\uFEA1\uFEA3\uFEA5\uFEA7\uFEA9\uFB84\uFEAB\uFEAD" ++
        "\uFB8C\uFEAF\uFB8A\uFEB1\uFEB3\uFEB5\uFEB7\uFEB9\uFEBB\uFEBD\uFEBF\uFEC1\uFEC5\uFEC9" ++
        "\uFECA\uFECB\uFECC\uFECD\uFECE\uFECF\uFED0\uFED1\uFED3\uFED5\uFED7\uFED9\uFEDB\uFB92" ++
        "\uFB94\uFEDD\uFEDF\uFEE0\uFEE1\uFEE3\uFB9E\uFEE5\uFEE7\uFE85\uFEED\uFBA6\uFBA8\uFBA9" ++
        "\uFBAA\uFE80\uFE89\uFE8A\uFE8B\uFEF1\uFEF2\uFEF3\uFBB0\uFBAE\uFE7C\uFE7D")⟩,
  ⟨"cp1125", ["1125", "ibm1125", "cp866u", "ruscii"], .table
      ("АБВГДЕЖЗИЙКЛМНОПРСТУФХЦЧШЩЪЫЬЭЮЯабвгдежзийклмноп░▒▓│┤╡╢╖╕╣║╗╝╜╛┐└┴┬├─┼╞╟╚╔╩╦╠═╬╧╨╤╥╙╘" ++
        "╒╓╫╪┘┌█▄▌▐▀рстуфхцчшщъыьэюяЁёҐґЄєІіЇї·√№¤■\u00A0")⟩,
  ⟨"cp1250", ["1250", "windows_1250"], .table
      ("€\uFFFD‚\uFFFD„…†‡\uFFFD‰Š‹ŚŤŽŹ\uFFFD‘’“”•–—\uFFFD™š›śťžź\u00A0\u02C7\u02D8Ł¤Ą¦§" ++
        "\u00A8©Ş«¬\u00AD®Ż°±\u02DBł\u00B4µ¶·\u00B8ąş»Ľ\u02DDľżŔÁÂĂÄĹĆÇČÉĘËĚÍÎĎĐŃŇÓÔŐÖ×ŘŮÚŰÜÝŢ" ++
        "ßŕáâăäĺćçčéęëěíîďđńňóôőö÷řůúűüýţ\u02D9")⟩,
  ⟨"cp1251", ["1251", "windows_1251"], .table
      ("ЂЃ‚ѓ„…†‡€‰Љ‹ЊЌЋЏђ‘’“”•–—\uFFFD™љ›њќћџ\u00A0ЎўЈ¤Ґ¦§Ё©Є«¬\u00AD®Ї°±Ііґµ¶·ё№є»јЅѕїАБВГДЕ" ++
        "ЖЗИЙКЛМНОПРСТУФХЦЧШЩЪЫЬЭЮЯабвгдежзийклмнопрстуфхцчшщъыьэюя")⟩,
  ⟨"cp1252", ["1252", "windows_1252"], .table
      ("€\uFFFD‚ƒ„…†‡\u02C6‰Š‹Œ\uFFFDŽ\uFFFD\uFFFD‘’“”•–—\u02DC™š›œ\uFFFDžŸ\u00A0¡¢£¤¥¦§" ++
        "\u00A8©ª«¬\u00AD®\u00AF°±²³\u00B4µ¶·\u00B8¹º»¼½¾¿ÀÁÂÃÄÅÆÇÈÉÊËÌÍÎÏÐÑÒÓÔÕÖ×ØÙÚÛÜÝÞßàáâã" ++
        "äåæçèéêëìíîïðñòóôõö÷øùúûüýþÿ")⟩,
  ⟨"cp1253", ["1253", "windows_1253"], .table
      ("€\uFFFD‚ƒ„…†‡\uFFFD‰\uFFFD‹\uFFFD\uFFFD\uFFFD\uFFFD\uFFFD‘’“”•–—\uFFFD™\uFFFD›\uFFFD" ++
        "\uFFFD\uFFFD\uFFFD\u00A0\u0385Ά£¤¥¦§\u00A8©\uFFFD«¬\u00AD®―°±²³\u0384µ¶·ΈΉΊ»Ό½ΎΏΐΑΒΓΔ" ++
        "ΕΖΗΘΙΚΛΜΝΞΟΠΡ\uFFFDΣΤΥΦΧΨΩΪΫάέήίΰαβγδεζηθικλμνξοπρςστυφχψωϊϋόύώ")⟩,
  ⟨"cp1254", ["1254", "windows_1254"], .table
      ("€\uFFFD‚ƒ„…†‡\u02C6‰Š‹Œ\uFFFD\uFFFD\uFFFD\uFFFD‘’“”•–—\u02DC™š›œ\uFFFD\uFFFDŸ\u00A0¡¢" ++
        "£¤¥¦§\u00A8©ª«¬\u00AD®\u00AF°±²³\u00B4µ¶·\u00B8¹º»¼½¾¿ÀÁÂÃÄÅÆÇÈÉÊËÌÍÎÏĞÑÒÓÔÕÖ×ØÙÚÛÜİŞ" ++
        "ßàáâãäåæçèéêëìíîïğñòóôõö÷øùúûüışÿ")⟩,
  ⟨"cp1255", ["1255", "windows_1255"], .table
      ("€\uFFFD‚ƒ„…†‡\u02C6‰\uFFFD‹\uFFFD\uFFFD\uFFFD\uFFFD\uFFFD‘’“”•–—\u02DC™\uFFFD›\uFFFD" ++
        "\uFFFD\uFFFD\uFFFD\u00A0¡¢£₪¥¦§\u00A8©×«¬\u00AD®\u00AF°±²³\u00B4µ¶·\u00B8¹÷»¼½¾¿" ++
        "\u05B0\u05B1\u05B2\u05B3\u05B4\u05B5\u05B6\u05B7\u05B8\u05B9\uFFFD\u05BB\u05BC\u05BD" ++
        "\u05BE\u05BF\u05C0\u05C1\u05C2\u05C3\u05F0\u05F1\u05F2\u05F3\u05F4\uFFFD\uFFFD\uFFFD" ++
        "\uFFFD\uFFFD\uFFFD\uFFFD\u05D0\u05D1\u05D2\u05D3\u05D4\u05D5\u05D6\u05D7\u05D8\u05D9" ++
        "\u05DA\u05DB\u05DC\u05DD\u05DE\u05DF\u05E0\u05E1\u05E2\u05E3\u05E4\u05E5\u05E6\u05E7" ++
        "\u05E8\u05E9\u05EA\uFFFD\uFFFD\u200E\u200F")⟩,
  ⟨"cp1256", ["1256", "windows_1256"], .table
      ("€\u067E‚ƒ„…†‡\u02C6‰\u0679‹Œ\u0686\u0698\u0688\u06AF‘’“”•–—\u06A9™\u0691›œ\u200C" ++
        "\u200D\u06BA\u00A0\u060C¢£¤¥¦§\u00A8©\u06BE«¬\u00AD®\u00AF°±²³\u00B4µ¶·\u00B8¹\u061B»" ++
        "¼½¾\u061F\u06C1\u0621\u0622\u0623\u0624\u0625\u0626\u0627\u0628\u0629\u062A\u062B" ++
        "\u062C\u062D\u062E\u062F\u0630\u0631\u0632\u0633\u0634\u0635\u0636×\u0637\u0638\u0639" ++
        "\u063A\u0640\u0641\u0642\u0643à\u0644â\u0645\u0646\u0647\u0648çèéêë\u0649\u064Aîï" ++
        "\u064B\u064C\u064D\u064Eô\u064F\u0650÷\u0651ù\u0652ûü\u200E\u200F\u06D2")⟩,
  ⟨"cp1257", ["1257", "windows_1257"], .table
      ("€\uFFFD‚\uFFFD„…†‡\uFFFD‰\uFFFD‹\uFFFD\u00A8\u02C7\u00B8\uFFFD‘’“”•–—\uFFFD™\uFFFD›" ++
        "\uFFFD\u00AF\u02DB\uFFFD\u00A0\uFFFD¢£¤\uFFFD¦§Ø©Ŗ«¬\u00AD®Æ°±²³\u00B4µ¶·ø¹ŗ»¼½¾æĄĮĀĆ" ++
        "ÄÅĘĒČÉŹĖĢĶĪĻŠŃŅÓŌÕÖ×ŲŁŚŪÜŻŽßąįāćäåęēčéźėģķīļšńņóōõö÷ųłśūüżž\u02D9")⟩,
  ⟨"cp1258", ["1258", "windows_1258"], .table
      ("€\uFFFD‚ƒ„…†‡\u02C6‰\uFFFD‹Œ\uFFFD\uFFFD\uFFFD\uFFFD‘’“”•–—\u02DC™\uFFFD›œ\uFFFD" ++
        "\uFFFDŸ\u00A0¡¢£¤¥¦§\u00A8©ª«¬\u00AD®\u00AF°±²³\u00B4µ¶·\u00B8¹º»¼½¾¿ÀÁÂĂÄÅÆÇÈÉÊË" ++
        "\u0300ÍÎÏĐÑ\u0309ÓÔƠÖ×ØÙÚÛÜƯ\u0303ßàáâăäåæçèéêë\u0301íîïđñ\u0323óôơö÷øùúûüư₫ÿ")⟩,
  ⟨"cp437", ["437", "cspc8codepage437", "ibm437"], .table
      ("ÇüéâäàåçêëèïîìÄÅÉæÆôöòûùÿÖÜ¢£¥₧ƒáíóúñÑªº¿⌐¬½¼¡«»░▒▓│┤╡╢╖╕╣║╗╝╜╛┐└┴┬├─┼╞╟╚╔╩╦╠═╬╧╨╤╥╙╘" ++
        "╒╓╫╪┘┌█▄▌▐▀αßΓπΣσµτΦΘΩδ∞φε∩≡±≥≤⌠⌡÷≈°∙·√\u207F²■\u00A0")⟩,
  ⟨"cp720", [], .table
      ("\u0080\u0081éâ\u0084à\u0086çêëèïî\u008D\u008E\u008F\u0090\u0651\u0652ô¤\u0640ûù\u0621" ++
        "\u0622\u0623\u0624£\u0625\u0626\u0627\u0628\u0629\u062A\u062B\u062C\u062D\u062E\u062F" ++
        "\u0630\u0631\u0632\u0633\u0634\u0635«»░▒▓│┤╡╢╖╕╣║╗╝╜╛┐└┴┬├─┼╞╟╚╔╩╦╠═╬╧╨╤╥╙╘╒╓╫╪┘┌█▄▌▐" ++
        "▀\u0636\u0637\u0638\u0639\u063A\u0641µ\u0642\u0643\u0644\u0645\u0646\u0647\u0648" ++
        "\u0649\u064A≡\u064B\u064C\u064D\u064E\u064F\u0650≈°∙·√\u207F²■\u00A0")⟩,
  ⟨"cp737", [], .table
      ("ΑΒΓΔΕΖΗΘΙΚΛΜΝΞΟΠΡΣΤΥΦΧΨΩαβγδεζηθικλμνξοπρσςτυφχψ░▒▓│┤╡╢╖╕╣║╗╝╜╛┐└┴┬├─┼╞╟╚╔╩╦╠═╬╧╨╤╥╙╘" ++
        "╒╓╫╪┘┌█▄▌▐▀ωάέήϊίόύϋώΆΈΉΊΌΎΏ±≥≤ΪΫ÷≈°∙·√\u207F²■\u00A0")⟩,
  ⟨"cp775", ["775", "cspc775baltic", "ibm775"], .table
      ("ĆüéāäģåćłēŖŗīŹÄÅÉæÆōöĢ¢ŚśÖÜø£Ø×¤ĀĪóŻżź”¦©®¬½¼Ł«»░▒▓│┤ĄČĘĖ╣║╗╝ĮŠ┐└┴┬├─┼ŲŪ╚╔╩╦╠═╬Žąčęėį" ++
        "šųūž┘┌█▄▌▐▀ÓßŌŃõÕµńĶķĻļņĒŅ’\u00AD±“¾¶§÷„°∙·¹³²■\u00A0")⟩,
  ⟨"cp850", ["850", "cspc850multilingual", "ibm850"], .table
      ("ÇüéâäàåçêëèïîìÄÅÉæÆôöòûùÿÖÜø£Ø×ƒáíóúñÑªº¿®¬½¼¡«»░▒▓│┤ÁÂÀ©╣║╗╝¢¥┐└┴┬├─┼ãÃ╚╔╩╦╠═╬¤ðÐÊËÈ" ++
        "ıÍÎÏ┘┌█▄¦Ì▀ÓßÔÒõÕµþÞÚÛÙýÝ\u00AF\u00B4\u00AD±‗¾¶§÷\u00B8°\u00A8·¹³²■\u00A0")⟩,
  ⟨"cp852", ["852", "cspcp852", "ibm852"], .table
      ("ÇüéâäůćçłëŐőîŹÄĆÉĹĺôöĽľŚśÖÜŤťŁ×čáíóúĄąŽžĘę¬źČş«»░▒▓│┤ÁÂĚŞ╣║╗╝Żż┐└┴┬├─┼Ăă╚╔╩╦╠═╬¤đĐĎËď" ++
        "ŇÍÎě┘┌█▄ŢŮ▀ÓßÔŃńňŠšŔÚŕŰýÝţ\u00B4\u00AD\u02DD\u02DB\u02C7\u02D8§÷\u00B8°\u00A8\u02D9űŘ" ++
        "ř■\u00A0")⟩,
  ⟨"cp855", ["855", "csibm855", "ibm855"], .table
      ("ђЂѓЃёЁєЄѕЅіІїЇјЈљЉњЊћЋќЌўЎџЏюЮъЪаАбБцЦдДеЕфФгГ«»░▒▓│┤хХиИ╣║╗╝йЙ┐└┴┬├─┼кК╚╔╩╦╠═╬¤лЛмМн" ++
        "НоОп┘┌█▄Пя▀ЯрРсСтТуУжЖвВьЬ№\u00ADыЫзЗшШэЭщЩчЧ§■\u00A0")⟩,
  ⟨"cp856", [], .table
      ("\u05D0\u05D1\u05D2\u05D3\u05D4\u05D5\u05D6\u05D7\u05D8\u05D9\u05DA\u05DB\u05DC\u05DD" ++
        "\u05DE\u05DF\u05E0\u05E1\u05E2\u05E3\u05E4\u05E5\u05E6\u05E7\u05E8\u05E9\u05EA\uFFFD£" ++
        "\uFFFD×\uFFFD\uFFFD\uFFFD\uFFFD\uFFFD\uFFFD\uFFFD\uFFFD\uFFFD\uFFFD®¬½¼\uFFFD«»░▒▓│┤" ++
        "\uFFFD\uFFFD\uFFFD©╣║╗╝¢¥┐└┴┬├─┼\uFFFD\uFFFD╚╔╩╦╠═╬¤\uFFFD\uFFFD\uFFFD\uFFFD\uFFFD" ++
        "\uFFFD\uFFFD\uFFFD\uFFFD┘┌█▄¦\uFFFD▀\uFFFD\uFFFD\uFFFD\uFFFD\uFFFD\uFFFDµ\uFFFD\uFFFD" ++
        "\uFFFD\uFFFD\uFFFD\uFFFD\uFFFD\u00AF\u00B4\u00AD±‗¾¶§÷\u00B8°\u00A8·¹³²■\u00A0")⟩,
  ⟨"cp857", ["857", "csibm857", "ibm857"], .table
      ("ÇüéâäàåçêëèïîıÄÅÉæÆôöòûùİÖÜø£ØŞşáíóúñÑĞğ¿®¬½¼¡«»░▒▓│┤ÁÂÀ©╣║╗╝¢¥┐└┴┬├─┼ãÃ╚╔╩╦╠═╬¤ºªÊËÈ" ++
        "\uFFFDÍÎÏ┘┌█▄¦Ì▀ÓßÔÒõÕµ\uFFFD×ÚÛÙìÿ\u00AF\u00B4\u00AD±\uFFFD¾¶§÷\u00B8°\u00A8·¹³²■" ++
        "\u00A0")⟩,
  ⟨"cp858", ["858", "csibm858", "ibm858"], .table
      ("ÇüéâäàåçêëèïîìÄÅÉæÆôöòûùÿÖÜø£Ø×ƒáíóúñÑªº¿®¬½¼¡«»░▒▓│┤ÁÂÀ©╣║╗╝¢¥┐└┴┬├─┼ãÃ╚╔╩╦╠═╬¤ðÐÊËÈ" ++
        "€ÍÎÏ┘┌█▄¦Ì▀ÓßÔÒõÕµþÞÚÛÙýÝ\u00AF\u00B4\u00AD±‗¾¶§÷\u00B8°\u00A8·¹³²■\u00A0")⟩,
  ⟨"cp860", ["860", "csibm860", "ibm860"], .table
      ("ÇüéâãàÁçêÊèÍÔìÃÂÉÀÈôõòÚùÌÕÜ¢£Ù₧ÓáíóúñÑªº¿Ò¬½¼¡«»░▒▓│┤╡╢╖╕╣║╗╝╜╛┐└┴┬├─┼╞╟╚╔╩╦╠═╬╧╨╤╥╙╘" ++
        "╒╓╫╪┘┌█▄▌▐▀αßΓπΣσµτΦΘΩδ∞φε∩≡±≥≤⌠⌡÷≈°∙·√\u207F²■\u00A0")⟩,
  ⟨"cp861", ["861", "cp_is", "csibm861", "ibm861"], .table
      ("ÇüéâäàåçêëèÐðÞÄÅÉæÆôöþûÝýÖÜø£Ø₧ƒáíóúÁÍÓÚ¿⌐¬½¼¡«»░▒▓│┤╡╢╖╕╣║╗╝╜╛┐└┴┬├─┼╞╟╚╔╩╦╠═╬╧╨╤╥╙╘" ++
        "╒╓╫╪┘┌█▄▌▐▀αßΓπΣσµτΦΘΩδ∞φε∩≡±≥≤⌠⌡÷≈°∙·√\u207F²■\u00A0")⟩,
  ⟨"cp862", ["862", "cspc862latinhebrew", "ibm862"], .table
      ("\u05D0\u05D1\u05D2\u05D3\u05D4\u05D5\u05D6\u05D7\u05D8\u05D9\u05DA\u05DB\u05DC\u05DD" ++
        "\u05DE\u05DF\u05E0\u05E1\u05E2\u05E3\u05E4\u05E5\u05E6\u05E7\u05E8\u05E9\u05EA¢£¥₧ƒáí" ++
        "óúñÑªº¿⌐¬½¼¡«»░▒▓│┤╡╢╖╕╣║╗╝╜╛┐└┴┬├─┼╞╟╚╔╩╦╠═╬╧╨╤╥╙╘╒╓╫╪┘┌█▄▌▐▀αßΓπΣσµτΦΘΩδ∞φε∩≡±≥≤⌠⌡÷" ++
        "≈°∙·√\u207F²■\u00A0")⟩,
  ⟨"cp863", ["863", "csibm863", "ibm863"], .table
      ("ÇüéâÂà¶çêëèïî‗À§ÉÈÊôËÏûù¤ÔÜ¢£ÙÛƒ¦\u00B4óú\u00A8\u00B8³\u00AFÎ⌐¬½¼¾«»░▒▓│┤╡╢╖╕╣║╗╝╜╛┐└" ++
        "┴┬├─┼╞╟╚╔╩╦╠═╬╧╨╤╥╙╘╒╓╫╪┘┌█▄▌▐▀αßΓπΣσµτΦΘΩδ∞φε∩≡±≥≤⌠⌡÷≈°∙·√\u207F²■\u00A0")⟩,
  ⟨"cp865", ["865", "csibm865", "ibm865"], .table
      ("ÇüéâäàåçêëèïîìÄÅÉæÆôöòûùÿÖÜø£Ø₧ƒáíóúñÑªº¿⌐¬½¼¡«¤░▒▓│┤╡╢╖╕╣║╗╝╜╛┐└┴┬├─┼╞╟╚╔╩╦╠═╬╧╨╤╥╙╘" ++
        "╒╓╫╪┘┌█▄▌▐▀αßΓπΣσµτΦΘΩδ∞φε∩≡±≥≤⌠⌡÷≈°∙·√\u207F²■\u00A0")⟩,
  ⟨"cp866", ["866", "csibm866", "ibm866"], .table
      ("АБВГДЕЖЗИЙКЛМНОПРСТУФХЦЧШЩЪЫЬЭЮЯабвгдежзийклмноп░▒▓│┤╡╢╖╕╣║╗╝╜╛┐└┴┬├─┼╞╟╚╔╩╦╠═╬╧╨╤╥╙╘" ++
        "╒╓╫╪┘┌█▄▌▐▀рстуфхцчшщъыьэюяЁёЄєЇїЎў°∙·√№¤■\u00A0")⟩,
  ⟨"cp869", ["869", "cp_gr", "csibm869", "ibm869"], .table
      ("\uFFFD\uFFFD\uFFFD\uFFFD\uFFFD\uFFFDΆ\uFFFD·¬¦‘’Έ―ΉΊΪΌ\uFFFD\uFFFDΎΫ©Ώ²³ά£έήίϊΐόύΑΒΓΔ" ++
        "ΕΖΗ½ΘΙ«»░▒▓│┤ΚΛΜΝ╣║╗╝ΞΟ┐└┴┬├─┼ΠΡ╚╔╩╦╠═╬ΣΤΥΦΧΨΩαβγ┘┌█▄δε▀ζηθικλμνξοπρσςτ\u0384\u00AD±υ" ++
        "φχ§ψ\u0385°\u00A8ωϋΰώ■\u00A0")⟩,
  ⟨"cp874", [], .table
      ("€\uFFFD\uFFFD\uFFFD\uFFFD…\uFFFD\uFFFD\uFFFD\uFFFD\uFFFD\uFFFD\uFFFD\uFFFD\uFFFD" ++
        "\uFFFD\uFFFD‘’“”•–—\uFFFD\uFFFD\uFFFD\uFFFD\uFFFD\uFFFD\uFFFD\uFFFD\u00A0กขฃคฅฆงจฉชซฌ" ++
        "ญฎฏฐฑฒณดตถทธนบปผฝพฟภมยรฤลฦวศษสหฬอฮฯะ\u0E31าำ\u0E34\u0E35\u0E36\u0E37\u0E38\u0E39" ++
        "\u0E3A\uFFFD\uFFFD\uFFFD\uFFFD฿เแโใไๅ\u0E46\u0E47\u0E48\u0E49\u0E4A\u0E4B\u0E4C\u0E4D" ++
        "\u0E4E๏๐๑๒๓๔๕๖๗๘๙๚๛")⟩,
  ⟨"hp_roman8", ["roman8", "r8", "cp1051", "ibm1051"], .upper
      ("\u00A0ÀÂÈÊËÎÏ\u00B4\u02CB\u02C6\u00A8\u02DCÙÛ₤\u00AFÝý°ÇçÑñ¡¿¤£¥§ƒ¢âêôûáéóúàèòùäëöüÅî" ++
        "ØÆåíøæÄìÖÜÉïßÔÁÃãÐðÍÌÓÒÕõŠšÚŸÿÞþ·µ¶¾—¼½ªº«■»±")⟩,
  ⟨"hz", ["hzgb", "hz_gb", "hz_gb_2312"], .encoding .hz⟩,
  ⟨"iso2022_jp", ["csiso2022jp", "iso2022jp", "iso_2022_jp"], .ascii⟩,
  ⟨"iso2022_jp_1", ["iso2022jp_1", "iso_2022_jp_1"], .ascii⟩,
  ⟨"iso2022_jp_2", ["iso2022jp_2", "iso_2022_jp_2"], .ascii⟩,
  ⟨"iso2022_jp_2004", ["iso_2022_jp_2004", "iso2022jp_2004"], .ascii⟩,
  ⟨"iso2022_jp_3", ["iso2022jp_3", "iso_2022_jp_3"], .ascii⟩,
  ⟨"iso2022_jp_ext", ["iso2022jp_ext", "iso_2022_jp_ext"], .ascii⟩,
  ⟨"iso8859_1", [], .straight⟩,
  ⟨"iso8859_10", ["csisolatin6", "iso_8859_10", "iso_8859_10_1992", "iso_ir_157", "l6", "latin6"],
    .upper
      ("\u00A0ĄĒĢĪĨĶ§ĻĐŠŦŽ\u00ADŪŊ°ąēģīĩķ·ļđšŧž―ūŋĀÁÂÃÄÅÆĮČÉĘËĖÍÎÏÐŅŌÓÔÕÖŨØŲÚÛÜÝÞßāáâãäåæįčéę" ++
        "ëėíîïðņōóôõöũøųúûüýþĸ")⟩,
  ⟨"iso8859_11", ["thai", "iso_8859_11", "iso_8859_11_2001"], .upper
      ("\u00A0กขฃคฅฆงจฉชซฌญฎฏฐฑฒณดตถทธนบปผฝพฟภมยรฤลฦวศษสหฬอฮฯะ\u0E31าำ\u0E34\u0E35\u0E36" ++
        "\u0E37\u0E38\u0E39\u0E3A\uFFFD\uFFFD\uFFFD\uFFFD฿เแโใไๅ\u0E46\u0E47\u0E48\u0E49\u0E4A" ++
        "\u0E4B\u0E4C\u0E4D\u0E4E๏๐๑๒๓๔๕๖๗๘๙๚๛")⟩,
  ⟨"iso8859_13", ["iso_8859_13", "l7", "latin7"], .upper
      ("\u00A0”¢£¤„¦§Ø©Ŗ«¬\u00AD®Æ°±²³“µ¶·ø¹ŗ»¼½¾æĄĮĀĆÄÅĘĒČÉŹĖĢĶĪĻŠŃŅÓŌÕÖ×ŲŁŚŪÜŻŽßąįāćäåęēčéź" ++
        "ėģķīļšńņóōõö÷ųłśūüżž’")⟩,
  ⟨"iso8859_14", ["iso_8859_14", "iso_8859_14_1998", "iso_celtic", "iso_ir_199", "l8", "latin8"],
    .upper
      ("\u00A0Ḃḃ£ĊċḊ§Ẁ©ẂḋỲ\u00AD®ŸḞḟĠġṀṁ¶ṖẁṗẃṠỳẄẅṡÀÁÂÃÄÅÆÇÈÉÊËÌÍÎÏŴÑÒÓÔÕÖṪØÙÚÛÜÝŶßàáâãäåæçèéê" ++
        "ëìíîïŵñòóôõöṫøùúûüýŷÿ")⟩,
  ⟨"iso8859_15", ["iso_8859_15", "l9", "latin9"], .upper
      ("\u00A0¡¢£€¥Š§š©ª«¬\u00AD®\u00AF°±²³Žµ¶·ž¹º»ŒœŸ¿ÀÁÂÃÄÅÆÇÈÉÊËÌÍÎÏÐÑÒÓÔÕÖ×ØÙÚÛÜÝÞßàáâãäå" ++
        "æçèéêëìíîïðñòóôõö÷øùúûüýþÿ")⟩,
  ⟨"iso8859_16", ["iso_8859_16", "iso_8859_16_2001", "iso_ir_226", "l10", "latin10"], .upper
      ("\u00A0ĄąŁ€„Š§š©Ș«Ź\u00ADźŻ°±ČłŽ”¶·žčș»ŒœŸżÀÁÂĂÄĆÆÇÈÉÊËÌÍÎÏĐŃÒÓÔŐÖŚŰÙÚÛÜĘȚßàáâăäćæçèéê" ++
        "ëìíîïđńòóôőöśűùúûüęțÿ")⟩,
  ⟨"iso8859_2", ["csisolatin2", "iso_8859_2", "iso_8859_2_1987", "iso_ir_101", "l2", "latin2"],
    .upper
      ("\u00A0Ą\u02D8Ł¤ĽŚ§\u00A8ŠŞŤŹ\u00ADŽŻ°ą\u02DBł\u00B4ľś\u02C7\u00B8šşťź\u02DDžżŔÁÂĂÄĹĆÇ" ++
        "ČÉĘËĚÍÎĎĐŃŇÓÔŐÖ×ŘŮÚŰÜÝŢßŕáâăäĺćçčéęëěíîďđńňóôőö÷řůúűüýţ\u02D9")⟩,
  ⟨"iso8859_3", ["csisolatin3", "iso_8859_3", "iso_8859_3_1988", "iso_ir_109", "l3", "latin3"],
    .upper
      ("\u00A0Ħ\u02D8£¤\uFFFDĤ§\u00A8İŞĞĴ\u00AD\uFFFDŻ°ħ²³\u00B4µĥ·\u00B8ışğĵ½\uFFFDżÀÁÂ" ++
        "\uFFFDÄĊĈÇÈÉÊËÌÍÎÏ\uFFFDÑÒÓÔĠÖ×ĜÙÚÛÜŬŜßàáâ\uFFFDäċĉçèéêëìíîï\uFFFDñòóôġö÷ĝùúûüŭŝ" ++
        "\u02D9")⟩,
  ⟨"iso8859_4", ["csisolatin4", "iso_8859_4", "iso_8859_4_1988", "iso_ir_110", "l4", "latin4"],
    .upper
      ("\u00A0ĄĸŖ¤ĨĻ§\u00A8ŠĒĢŦ\u00ADŽ\u00AF°ą\u02DBŗ\u00B4ĩļ\u02C7\u00B8šēģŧŊžŋĀÁÂÃÄÅÆĮČÉĘËĖ" ++
        "ÍÎĪĐŅŌĶÔÕÖ×ØŲÚÛÜŨŪßāáâãäåæįčéęëėíîīđņōķôõö÷øųúûüũū\u02D9")⟩,
  ⟨"iso8859_5", ["csisolatincyrillic", "cyrillic", "iso_8859_5", "iso_8859_5_1988", "iso_ir_144"],
    .upper
      ("\u00A0ЁЂЃЄЅІЇЈЉЊЋЌ\u00ADЎЏАБВГДЕЖЗИЙКЛМНОПРСТУФХЦЧШЩЪЫЬЭЮЯабвгдежзийклмнопрстуфхцчшщъ" ++
        "ыьэюя№ёђѓєѕіїјљњћќ§ўџ")⟩,
  ⟨"iso8859_6", ["arabic", "asmo_708", "csisolatinarabic", "ecma_114", "iso_8859_6",
    "iso_8859_6_1987", "iso_ir_127"], .upper
      ("\u00A0\uFFFD\uFFFD\uFFFD¤\uFFFD\uFFFD\uFFFD\uFFFD\uFFFD\uFFFD\uFFFD\u060C\u00AD\uFFFD" ++
        "\uFFFD\uFFFD\uFFFD\uFFFD\uFFFD\uFFFD\uFFFD\uFFFD\uFFFD\uFFFD\uFFFD\uFFFD\u061B\uFFFD" ++
        "\uFFFD\uFFFD\u061F\uFFFD\u0621\u0622\u0623\u0624\u0625\u0626\u0627\u0628\u0629\u062A" ++
        "\u062B\u062C\u062D\u062E\u062F\u0630\u0631\u0632\u0633\u0634\u0635\u0636\u0637\u0638" ++
        "\u0639\u063A\uFFFD\uFFFD\uFFFD\uFFFD\uFFFD\u0640\u0641\u0642\u0643\u0644\u0645\u0646" ++
        "\u0647\u0648\u0649\u064A\u064B\u064C\u064D\u064E\u064F\u0650\u0651\u0652")⟩,
  ⟨"iso8859_7", ["csisolatingreek", "ecma_118", "elot_928", "greek", "greek8", "iso_8859_7",
    "iso_8859_7_1987", "iso_ir_126"], .upper
      ("\u00A0‘’£€₯¦§\u00A8©\u037A«¬\u00AD\uFFFD―°±²³\u0384\u0385Ά·ΈΉΊ»Ό½ΎΏΐΑΒΓΔΕΖΗΘΙΚΛΜΝΞΟΠΡ" ++
        "\uFFFDΣΤΥΦΧΨΩΪΫάέήίΰαβγδεζηθικλμνξοπρςστυφχψωϊϋόύώ")⟩,
  ⟨"iso8859_8", ["csisolatinhebrew", "hebrew", "iso_8859_8", "iso_8859_8_1988", "iso_ir_138"],
    .upper
      ("\u00A0\uFFFD¢£¤¥¦§\u00A8©×«¬\u00AD®\u00AF°±²³\u00B4µ¶·\u00B8¹÷»¼½¾\uFFFD\uFFFD\uFFFD" ++
        "\uFFFD\uFFFD\uFFFD\uFFFD\uFFFD\uFFFD\uFFFD\uFFFD\uFFFD\uFFFD\uFFFD\uFFFD\uFFFD\uFFFD" ++
        "\uFFFD\uFFFD\uFFFD\uFFFD\uFFFD\uFFFD\uFFFD\uFFFD\uFFFD\uFFFD\uFFFD\uFFFD\uFFFD\uFFFD" ++
        "\uFFFD‗\u05D0\u05D1\u05D2\u05D3\u05D4\u05D5\u05D6\u05D7\u05D8\u05D9\u05DA\u05DB\u05DC" ++
        "\u05DD\u05DE\u05DF\u05E0\u05E1\u05E2\u05E3\u05E4\u05E5\u05E6\u05E7\u05E8\u05E9\u05EA" ++
        "\uFFFD\uFFFD\u200E\u200F")⟩,
  ⟨"iso8859_9", ["csisolatin5", "iso_8859_9", "iso_8859_9_1989", "iso_ir_148", "l5", "latin5"],
    .upper
      ("\u00A0¡¢£¤¥¦§\u00A8©ª«¬\u00AD®\u00AF°±²³\u00B4µ¶·\u00B8¹º»¼½¾¿ÀÁÂÃÄÅÆÇÈÉÊËÌÍÎÏĞÑÒÓÔÕÖ" ++
        "×ØÙÚÛÜİŞßàáâãäåæçèéêëìíîïğñòóôõö÷øùúûüışÿ")⟩,
  ⟨"koi8_r", ["cskoi8r"], .table
      ("─│┌┐└┘├┤┬┴┼▀▄█▌▐░▒▓⌠■∙√≈≤≥\u00A0⌡°²·÷═║╒ё╓╔╕╖╗╘╙╚╛╜╝╞╟╠╡Ё╢╣╤╥╦╧╨╩╪╫╬©юабцдефгхийклмно" ++
        "пярстужвьызшэщчъЮАБЦДЕФГХИЙКЛМНОПЯРСТУЖВЬЫЗШЭЩЧЪ")⟩,
  ⟨"koi8_t", [], .table
      ("қғ‚Ғ„…†‡\uFFFD‰ҳ‹ҲҷҶ\uFFFDҚ‘’“”•–—\uFFFD™\uFFFD›\uFFFD\uFFFD\uFFFD\uFFFD\uFFFDӯӮё¤ӣ¦§" ++
        "\uFFFD\uFFFD\uFFFD«¬\u00AD®\uFFFD°±²Ё\uFFFDӢ¶·\uFFFD№\uFFFD»\uFFFD\uFFFD\uFFFD©юабцде" ++
        "фгхийклмнопярстужвьызшэщчъЮАБЦДЕФГХИЙКЛМНОПЯРСТУЖВЬЫЗШЭЩЧЪ")⟩,
  ⟨"koi8_u", [], .table
      ("─│┌┐└┘├┤┬┴┼▀▄█▌▐░▒▓⌠■∙√≈≤≥\u00A0⌡°²·÷═║╒ёє╔ії╗╘╙╚╛ґ╝╞╟╠╡ЁЄ╣ІЇ╦╧╨╩╪Ґ╬©юабцдефгхийклмно" ++
        "пярстужвьызшэщчъЮАБЦДЕФГХИЙКЛМНОПЯРСТУЖВЬЫЗШЭЩЧЪ")⟩,
  ⟨"kz1048", ["kz_1048", "rk1048", "strk1048_2002"], .table
      ("ЂЃ‚ѓ„…†‡€‰Љ‹ЊҚҺЏђ‘’“”•–—\uFFFD™љ›њқһџ\u00A0ҰұӘ¤Ө¦§Ё©Ғ«¬\u00AD®Ү°±Ііөµ¶·ё№ғ»әҢңүАБВГДЕ" ++
        "ЖЗИЙКЛМНОПРСТУФХЦЧШЩЪЫЬЭЮЯабвгдежзийклмнопрстуфхцчшщъыьэюя")⟩,
  ⟨"latin_1", ["8859", "cp819", "csisolatin1", "ibm819", "iso8859", "iso8859_1", "iso_8859_1",
    "iso_8859_1_1987", "iso_ir_100", "l1", "latin", "latin1"], .straight⟩,
  ⟨"mac_croatian", [], .table
      ("ÄÅÇÉÑÖÜáàâäãåçéèêëíìîïñóòôöõúùûü†°¢£§•¶ß®Š™\u00B4\u00A8≠ŽØ∞±≤≥∆µ∂∑∏š∫ªºΩžø¿¡¬√ƒ≈Ć«Č…" ++
        "\u00A0ÀÃÕŒœĐ—“”‘’÷◊\uF8FF©⁄€‹›Æ»–·‚„‰ÂćÁčÈÍÎÏÌÓÔđÒÚÛÙı\u02C6\u02DC\u00AFπË\u02DA" ++
        "\u00B8Êæ\u02C7")⟩,
  ⟨"mac_cyrillic", ["maccyrillic"], .table
      ("АБВГДЕЖЗИЙКЛМНОПРСТУФХЦЧШЩЪЫЬЭЮЯ†°Ґ£§•¶І®©™Ђђ≠Ѓѓ∞±≤≥іµґЈЄєЇїЉљЊњјЅ¬√ƒ≈∆«»…\u00A0ЋћЌќѕ" ++
        "–—“”‘’÷„ЎўЏџ№Ёёяабвгдежзийклмнопрстуфхцчшщъыьэю€")⟩,
  ⟨"mac_greek", ["macgreek"], .table
      ("Ä¹²É³ÖÜ\u0385àâä\u0384\u00A8çéèêë£™îï•½‰ôö¦€ùûü†ΓΔΘΛΞΠß®©ΣΪ§≠°·Α±≤≥¥ΒΕΖΗΙΚΜΦΫΨΩάΝ¬ΟΡ≈" ++
        "Τ«»…\u00A0ΥΧΆΈœ–―“”‘’÷ΉΊΌΎέήίόΏύαβψδεφγηιξκλμνοπώρστθωςχυζϊϋΐΰ\u00AD")⟩,
  ⟨"mac_iceland", ["maciceland"], .table
      ("ÄÅÇÉÑÖÜáàâäãåçéèêëíìîïñóòôöõúùûüÝ°¢£§•¶ß®©™\u00B4\u00A8≠ÆØ∞±≤≥¥µ∂∑∏π∫ªºΩæø¿¡¬√ƒ≈∆«»…" ++
        "\u00A0ÀÃÕŒœ–—“”‘’÷◊ÿŸ⁄€ÐðÞþý·‚„‰ÂÊÁËÈÍÎÏÌÓÔ\uF8FFÒÚÛÙı\u02C6\u02DC\u00AF\u02D8\u02D9" ++
        "\u02DA\u00B8\u02DD\u02DB\u02C7")⟩,
  ⟨"mac_latin2", ["maccentraleurope", "mac_centeuro", "maclatin2"], .table
      ("ÄĀāÉĄÖÜáąČäčĆćéŹźĎíďĒēĖóėôöõúĚěü†°Ę£§•¶ß®©™ę\u00A8≠ģĮįĪ≤≥īĶ∂∑łĻļĽľĹĺŅņŃ¬√ńŇ∆«»…\u00A0" ++
        "ňŐÕőŌ–—“”‘’÷◊ōŔŕŘ‹›řŖŗŠ‚„šŚśÁŤťÍŽžŪÓÔūŮÚůŰűŲųÝýķŻŁżĢ\u02C7")⟩,
  ⟨"mac_roman", ["macintosh", "macroman"], .table
      ("ÄÅÇÉÑÖÜáàâäãåçéèêëíìîïñóòôöõúùûü†°¢£§•¶ß®©™\u00B4\u00A8≠ÆØ∞±≤≥¥µ∂∑∏π∫ªºΩæø¿¡¬√ƒ≈∆«»…" ++
        "\u00A0ÀÃÕŒœ–—“”‘’÷◊ÿŸ⁄€‹›ﬁﬂ‡·‚„‰ÂÊÁËÈÍÎÏÌÓÔ\uF8FFÒÚÛÙı\u02C6\u02DC\u00AF\u02D8\u02D9" ++
        "\u02DA\u00B8\u02DD\u02DB\u02C7")⟩,
  ⟨"mac_romanian", [], .table
      ("ÄÅÇÉÑÖÜáàâäãåçéèêëíìîïñóòôöõúùûü†°¢£§•¶ß®©™\u00B4\u00A8≠ĂȘ∞±≤≥¥µ∂∑∏π∫ªºΩăș¿¡¬√ƒ≈∆«»…" ++
        "\u00A0ÀÃÕŒœ–—“”‘’÷◊ÿŸ⁄€‹›Țț‡·‚„‰ÂÊÁËÈÍÎÏÌÓÔ\uF8FFÒÚÛÙı\u02C6\u02DC\u00AF\u02D8\u02D9" ++
        "\u02DA\u00B8\u02DD\u02DB\u02C7")⟩,
  ⟨"mac_turkish", ["macturkish"], .table
      ("ÄÅÇÉÑÖÜáàâäãåçéèêëíìîïñóòôöõúùûü†°¢£§•¶ß®©™\u00B4\u00A8≠ÆØ∞±≤≥¥µ∂∑∏π∫ªºΩæø¿¡¬√ƒ≈∆«»…" ++
        "\u00A0ÀÃÕŒœ–—“”‘’÷◊ÿŸĞğİıŞş‡·‚„‰ÂÊÁËÈÍÎÏÌÓÔ\uF8FFÒÚÛÙ\uF8A0\u02C6\u02DC\u00AF\u02D8" ++
        "\u02D9\u02DA\u00B8\u02DD\u02DB\u02C7")⟩,
  ⟨"palmos", [], .table
      ("€\u0081‚ƒ„…†‡\u02C6‰Š‹Œ♦♣♥♠‘’“”•–—\u02DC™š\u009Bœ\u009D\u009EŸ\u00A0¡¢£¤¥¦§\u00A8©ª«¬" ++
        "\u00AD®\u00AF°±²³\u00B4µ¶·\u00B8¹º»¼½¾¿ÀÁÂÃÄÅÆÇÈÉÊËÌÍÎÏÐÑÒÓÔÕÖ×ØÙÚÛÜÝÞßàáâãäåæçèéêëìí" ++
        "îïðñòóôõö÷øùúûüýþÿ")⟩,
  ⟨"ptcp154", ["csptcp154", "pt154", "cp154", "cyrillic_asian"], .table
      ("ҖҒӮғ„…ҶҮҲүҠӢҢҚҺҸҗ‘’“”•–—ҳҷҡӣңқһҹ\u00A0ЎўЈӨҘҰ§Ё©Ә«¬ӯ®Ҝ°ұІіҙө¶·ё№ә»јҪҫҝАБВГДЕЖЗИЙКЛМНОП" ++
        "РСТУФХЦЧШЩЪЫЬЭЮЯабвгдежзийклмнопрстуфхцчшщъыьэюя")⟩,
  ⟨"raw_unicode_escape", [], .straight⟩,
  ⟨"tis_620", ["tis620", "tis_620_0", "tis_620_2529_0", "tis_620_2529_1", "iso_ir_166"], .upper
      ("\uFFFDกขฃคฅฆงจฉชซฌญฎฏฐฑฒณดตถทธนบปผฝพฟภมยรฤลฦวศษสหฬอฮฯะ\u0E31าำ\u0E34\u0E35\u0E36" ++
        "\u0E37\u0E38\u0E39\u0E3A\uFFFD\uFFFD\uFFFD\uFFFD฿เแโใไๅ\u0E46\u0E47\u0E48\u0E49\u0E4A" ++
        "\u0E4B\u0E4C\u0E4D\u0E4E๏๐๑๒๓๔๕๖๗๘๙๚๛")⟩,
  ⟨"unicode_escape", [], .straight⟩,
  ⟨"utf_8", ["u8", "utf", "utf8", "utf8_ucs2", "utf8_ucs4", "cp65001"], .ascii⟩,
  ⟨"utf_8_sig", [], .ascii⟩]

/-- Encodings that no text in ASCII can be written in as it is. -/
def strangers : List Charset := [
  ⟨"cp037", ["037", "csibm037", "ebcdic_cp_ca", "ebcdic_cp_nl", "ebcdic_cp_us", "ebcdic_cp_wt",
    "ibm037", "ibm039"], .foreign⟩,
  ⟨"cp1026", ["1026", "csibm1026", "ibm1026"], .foreign⟩,
  ⟨"cp1140", ["1140", "ibm1140"], .foreign⟩,
  ⟨"cp273", ["273", "ibm273", "csibm273"], .foreign⟩,
  ⟨"cp424", ["424", "csibm424", "ebcdic_cp_he", "ibm424"], .foreign⟩,
  ⟨"cp500", ["500", "csibm500", "ebcdic_cp_be", "ebcdic_cp_ch", "ibm500"], .foreign⟩,
  ⟨"cp864", ["864", "csibm864", "ibm864"], .foreign⟩,
  ⟨"cp875", [], .foreign⟩,
  ⟨"mac_arabic", [], .foreign⟩,
  ⟨"mac_farsi", [], .foreign⟩,
  ⟨"big5", ["big5_tw", "csbig5", "x_mac_trad_chinese"], .several⟩,
  ⟨"big5hkscs", ["big5_hkscs", "hkscs"], .several⟩,
  ⟨"cp932", ["932", "ms932", "mskanji", "ms_kanji"], .several⟩,
  ⟨"cp949", ["949", "ms949", "uhc"], .several⟩,
  ⟨"cp950", ["950", "ms950"], .several⟩,
  ⟨"euc_jis_2004", ["jisx0213", "eucjis2004", "euc_jis2004"], .several⟩,
  ⟨"euc_jisx0213", ["eucjisx0213"], .several⟩,
  ⟨"euc_jp", ["eucjp", "ujis", "u_jis"], .several⟩,
  ⟨"euc_kr", ["euckr", "korean", "ksc5601", "ks_c_5601", "ks_c_5601_1987", "ksx1001",
    "ks_x_1001", "x_mac_korean"], .several⟩,
  ⟨"gb18030", ["gb18030_2000"], .several⟩,
  ⟨"gb2312", ["chinese", "csiso58gb231280", "euc_cn", "euccn", "eucgb2312_cn", "gb2312_1980",
    "gb2312_80", "iso_ir_58", "x_mac_simp_chinese"], .several⟩,
  ⟨"gbk", ["936", "cp936", "ms936"], .several⟩,
  ⟨"iso2022_kr", ["csiso2022kr", "iso2022kr", "iso_2022_kr"], .several⟩,
  ⟨"johab", ["cp1361", "ms1361"], .several⟩,
  ⟨"shift_jis", ["csshiftjis", "shiftjis", "sjis", "s_jis", "x_mac_japanese"], .several⟩,
  ⟨"shift_jis_2004", ["shiftjis2004", "sjis_2004", "s_jis_2004"], .several⟩,
  ⟨"shift_jisx0213", ["shiftjisx0213", "sjisx0213", "s_jisx0213"], .several⟩,
  ⟨"utf_16", ["u16", "utf16"], .several⟩,
  ⟨"utf_16_be", ["unicodebigunmarked", "utf_16be"], .several⟩,
  ⟨"utf_16_le", ["unicodelittleunmarked", "utf_16le"], .several⟩,
  ⟨"utf_32", ["u32", "utf32"], .several⟩,
  ⟨"utf_32_be", ["utf_32be"], .several⟩,
  ⟨"utf_32_le", ["utf_32le"], .several⟩,
  ⟨"utf_7", ["u7", "utf7", "unicode_1_1_utf_7"], .several⟩,
  ⟨"base64_codec", ["base64", "base_64"], .noText⟩,
  ⟨"bz2_codec", ["bz2"], .noText⟩,
  ⟨"hex_codec", ["hex"], .noText⟩,
  ⟨"quopri_codec", ["quopri", "quoted_printable", "quotedprintable"], .noText⟩,
  ⟨"rot_13", ["rot13"], .noText⟩,
  ⟨"uu_codec", ["uu"], .noText⟩,
  ⟨"zlib_codec", ["zip", "zlib"], .noText⟩,
  ⟨"idna", [], .refusing "Unsupported error handling replace"⟩,
  ⟨"punycode", [], .failing
    "'ascii' codec can't decode byte 0x80 in position 82: ordinal not in range(128)"⟩,
  ⟨"undefined", [], .refusing "undefined encoding"⟩]

/-- A name in small letters, with one low line for all that stands between letters, digits and full
stops. -/
def plainName (cs : List Char) : List Char :=
  (List.intercalate ['_'] (wordsOf (fun c => !(c.isAlphanum || c = '.')) cs)).map Char.toLower

/-- What a name stands for. In what is no name of its own a full stop is as good as a low line. -/
def codec? (name : String) : Option Codec :=
  let plain := String.ofList (plainName name.toList)
  let joined := String.ofList ((plainName name.toList).map fun c => if c = '.' then '_' else c)
  ((tables ++ strangers).find? fun e =>
    e.name = plain || e.aliases.contains plain || e.aliases.contains joined).map (·.codec)

end Gleaner.Text
