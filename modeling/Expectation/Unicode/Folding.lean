/-!
# Letters that differ in case only

Two characters are *case variants* when the simple case folding takes them to
the same character. The variants of a character form a small class, most often
a capital and a small letter; `foldingClasses` lists every class with more than
one member.
-/

namespace Expectation.Unicode

/-- The classes of case variants, each a string of its members. -/
def foldingClasses : List String := [
  "Aa", "Bb", "Cc", "Dd", "Ee", "Ff", "Gg", "Hh", "Ii", "Jj", "Kk\u212a", "Ll", "Mm", "Nn", "Oo",
  "Pp", "Qq", "Rr", "Ssſ", "Tt", "Uu", "Vv", "Ww", "Xx", "Yy", "Zz", "µΜμ", "Àà", "Áá", "Ââ",
  "Ãã", "Ää", "Åå\u212b", "Ææ", "Çç", "Èè", "Éé", "Êê", "Ëë", "Ìì", "Íí", "Îî", "Ïï", "Ðð", "Ññ",
  "Òò", "Óó", "Ôô", "Õõ", "Öö", "Øø", "Ùù", "Úú", "Ûû", "Üü", "Ýý", "Þþ", "ßẞ", "ÿŸ", "Āā", "Ăă",
  "Ąą", "Ćć", "Ĉĉ", "Ċċ", "Čč", "Ďď", "Đđ", "Ēē", "Ĕĕ", "Ėė", "Ęę", "Ěě", "Ĝĝ", "Ğğ", "Ġġ", "Ģģ",
  "Ĥĥ", "Ħħ", "Ĩĩ", "Īī", "Ĭĭ", "Įį", "Ĳĳ", "Ĵĵ", "Ķķ", "Ĺĺ", "Ļļ", "Ľľ", "Ŀŀ", "Łł", "Ńń", "Ņņ",
  "Ňň", "Ŋŋ", "Ōō", "Ŏŏ", "Őő", "Œœ", "Ŕŕ", "Ŗŗ", "Řř", "Śś", "Ŝŝ", "Şş", "Šš", "Ţţ", "Ťť", "Ŧŧ",
  "Ũũ", "Ūū", "Ŭŭ", "Ůů", "Űű", "Ųų", "Ŵŵ", "Ŷŷ", "Źź", "Żż", "Žž", "ƀɃ", "Ɓɓ", "Ƃƃ", "Ƅƅ", "Ɔɔ",
  "Ƈƈ", "Ɖɖ", "Ɗɗ", "Ƌƌ", "Ǝǝ", "Əə", "Ɛɛ", "Ƒƒ", "Ɠɠ", "Ɣɣ", "ƕǶ", "Ɩɩ", "Ɨɨ", "Ƙƙ", "ƚȽ",
  "ƛ\ua7dc", "Ɯɯ", "Ɲɲ", "ƞȠ", "Ɵɵ", "Ơơ", "Ƣƣ", "Ƥƥ", "Ʀʀ", "Ƨƨ", "Ʃʃ", "Ƭƭ", "Ʈʈ", "Ưư", "Ʊʊ",
  "Ʋʋ", "Ƴƴ", "Ƶƶ", "Ʒʒ", "Ƹƹ", "Ƽƽ", "ƿǷ", "Ǆǅǆ", "Ǉǈǉ", "Ǌǋǌ", "Ǎǎ", "Ǐǐ", "Ǒǒ", "Ǔǔ", "Ǖǖ",
  "Ǘǘ", "Ǚǚ", "Ǜǜ", "Ǟǟ", "Ǡǡ", "Ǣǣ", "Ǥǥ", "Ǧǧ", "Ǩǩ", "Ǫǫ", "Ǭǭ", "Ǯǯ", "Ǳǲǳ", "Ǵǵ", "Ǹǹ",
  "Ǻǻ", "Ǽǽ", "Ǿǿ", "Ȁȁ", "Ȃȃ", "Ȅȅ", "Ȇȇ", "Ȉȉ", "Ȋȋ", "Ȍȍ", "Ȏȏ", "Ȑȑ", "Ȓȓ", "Ȕȕ", "Ȗȗ", "Șș",
  "Țț", "Ȝȝ", "Ȟȟ", "Ȣȣ", "Ȥȥ", "Ȧȧ", "Ȩȩ", "Ȫȫ", "Ȭȭ", "Ȯȯ", "Ȱȱ", "Ȳȳ", "Ⱥ\u2c65", "Ȼȼ",
  "Ⱦ\u2c66", "ȿ\u2c7e", "ɀ\u2c7f", "Ɂɂ", "Ʉʉ", "Ʌʌ", "Ɇɇ", "Ɉɉ", "Ɋɋ", "Ɍɍ", "Ɏɏ", "ɐ\u2c6f",
  "ɑ\u2c6d", "ɒ\u2c70", "ɜ\ua7ab", "ɡ\ua7ac", "ɤ\ua7cb", "ɥ\ua78d", "ɦ\ua7aa", "ɪ\ua7ae",
  "ɫ\u2c62", "ɬ\ua7ad", "ɱ\u2c6e", "ɽ\u2c64", "ʂ\ua7c5", "ʇ\ua7b1", "ʝ\ua7b2", "ʞ\ua7b0", "ͅΙιι",
  "Ͱͱ", "Ͳͳ", "Ͷͷ", "ͻϽ", "ͼϾ", "ͽϿ", "Ϳϳ", "Άά", "Έέ", "Ήή", "Ίί", "Όό", "Ύύ", "Ώώ", "ΐΐ", "Αα",
  "Ββϐ", "Γγ", "Δδ", "Εεϵ", "Ζζ", "Ηη", "Θθϑϴ", "Κκϰ", "Λλ", "Νν", "Ξξ", "Οο", "Ππϖ", "Ρρϱ",
  "Σςσ", "Ττ", "Υυ", "Φφϕ", "Χχ", "Ψψ", "Ωω\u2126", "Ϊϊ", "Ϋϋ", "ΰΰ", "Ϗϗ", "Ϙϙ", "Ϛϛ", "Ϝϝ",
  "Ϟϟ", "Ϡϡ", "Ϣϣ", "Ϥϥ", "Ϧϧ", "Ϩϩ", "Ϫϫ", "Ϭϭ", "Ϯϯ", "ϲϹ", "Ϸϸ", "Ϻϻ", "Ѐѐ", "Ёё", "Ђђ", "Ѓѓ",
  "Єє", "Ѕѕ", "Іі", "Її", "Јј", "Љљ", "Њњ", "Ћћ", "Ќќ", "Ѝѝ", "Ўў", "Џџ", "Аа", "Бб", "Ввᲀ",
  "Гг", "Ддᲁ", "Ее", "Жж", "Зз", "Ии", "Йй", "Кк", "Лл", "Мм", "Нн", "Ооᲂ", "Пп", "Рр", "Ссᲃ",
  "Ттᲄᲅ", "Уу", "Фф", "Хх", "Цц", "Чч", "Шш", "Щщ", "Ъъᲆ", "Ыы", "Ьь", "Ээ", "Юю", "Яя", "Ѡѡ",
  "Ѣѣᲇ", "Ѥѥ", "Ѧѧ", "Ѩѩ", "Ѫѫ", "Ѭѭ", "Ѯѯ", "Ѱѱ", "Ѳѳ", "Ѵѵ", "Ѷѷ", "Ѹѹ", "Ѻѻ", "Ѽѽ", "Ѿѿ",
  "Ҁҁ", "Ҋҋ", "Ҍҍ", "Ҏҏ", "Ґґ", "Ғғ", "Ҕҕ", "Җҗ", "Ҙҙ", "Ққ", "Ҝҝ", "Ҟҟ", "Ҡҡ", "Ңң", "Ҥҥ", "Ҧҧ",
  "Ҩҩ", "Ҫҫ", "Ҭҭ", "Үү", "Ұұ", "Ҳҳ", "Ҵҵ", "Ҷҷ", "Ҹҹ", "Һһ", "Ҽҽ", "Ҿҿ", "Ӏӏ", "Ӂӂ", "Ӄӄ", "Ӆӆ",
  "Ӈӈ", "Ӊӊ", "Ӌӌ", "Ӎӎ", "Ӑӑ", "Ӓӓ", "Ӕӕ", "Ӗӗ", "Әә", "Ӛӛ", "Ӝӝ", "Ӟӟ", "Ӡӡ", "Ӣӣ", "Ӥӥ", "Ӧӧ",
  "Өө", "Ӫӫ", "Ӭӭ", "Ӯӯ", "Ӱӱ", "Ӳӳ", "Ӵӵ", "Ӷӷ", "Ӹӹ", "Ӻӻ", "Ӽӽ", "Ӿӿ", "Ԁԁ", "Ԃԃ", "Ԅԅ", "Ԇԇ",
  "Ԉԉ", "Ԋԋ", "Ԍԍ", "Ԏԏ", "Ԑԑ", "Ԓԓ", "Ԕԕ", "Ԗԗ", "Ԙԙ", "Ԛԛ", "Ԝԝ", "Ԟԟ", "Ԡԡ", "Ԣԣ", "Ԥԥ", "Ԧԧ",
  "Ԩԩ", "Ԫԫ", "Ԭԭ", "Ԯԯ", "Աա", "Բբ", "Գգ", "Դդ", "Եե", "Զզ", "Էէ", "Ըը", "Թթ", "Ժժ", "Իի", "Լլ",
  "Խխ", "Ծծ", "Կկ", "Հհ", "Ձձ", "Ղղ", "Ճճ", "Մմ", "Յյ", "Նն", "Շշ", "Ոո", "Չչ", "Պպ", "Ջջ", "Ռռ",
  "Սս", "Վվ", "Տտ", "Րր", "Ցց", "Ււ", "Փփ", "Քք", "Օօ", "Ֆֆ", "Ⴀ\u2d00", "Ⴁ\u2d01", "Ⴂ\u2d02",
  "Ⴃ\u2d03", "Ⴄ\u2d04", "Ⴅ\u2d05", "Ⴆ\u2d06", "Ⴇ\u2d07", "Ⴈ\u2d08", "Ⴉ\u2d09", "Ⴊ\u2d0a",
  "Ⴋ\u2d0b", "Ⴌ\u2d0c", "Ⴍ\u2d0d", "Ⴎ\u2d0e", "Ⴏ\u2d0f", "Ⴐ\u2d10", "Ⴑ\u2d11", "Ⴒ\u2d12",
  "Ⴓ\u2d13", "Ⴔ\u2d14", "Ⴕ\u2d15", "Ⴖ\u2d16", "Ⴗ\u2d17", "Ⴘ\u2d18", "Ⴙ\u2d19", "Ⴚ\u2d1a",
  "Ⴛ\u2d1b", "Ⴜ\u2d1c", "Ⴝ\u2d1d", "Ⴞ\u2d1e", "Ⴟ\u2d1f", "Ⴠ\u2d20", "Ⴡ\u2d21", "Ⴢ\u2d22",
  "Ⴣ\u2d23", "Ⴤ\u2d24", "Ⴥ\u2d25", "Ⴧ\u2d27", "Ⴭ\u2d2d", "აᲐ", "ბᲑ", "გᲒ", "დᲓ", "ეᲔ", "ვᲕ",
  "ზᲖ", "თᲗ", "იᲘ", "კᲙ", "ლᲚ", "მᲛ", "ნᲜ", "ოᲝ", "პᲞ", "ჟᲟ", "რᲠ", "სᲡ", "ტᲢ", "უᲣ", "ფᲤ", "ქᲥ",
  "ღᲦ", "ყᲧ", "შᲨ", "ჩᲩ", "ცᲪ", "ძᲫ", "წᲬ", "ჭᲭ", "ხᲮ", "ჯᲯ", "ჰᲰ", "ჱᲱ", "ჲᲲ", "ჳᲳ", "ჴᲴ", "ჵᲵ",
  "ჶᲶ", "ჷᲷ", "ჸᲸ", "ჹᲹ", "ჺᲺ", "ჽᲽ", "ჾᲾ", "ჿᲿ", "Ꭰ\uab70", "Ꭱ\uab71", "Ꭲ\uab72", "Ꭳ\uab73",
  "Ꭴ\uab74", "Ꭵ\uab75", "Ꭶ\uab76", "Ꭷ\uab77", "Ꭸ\uab78", "Ꭹ\uab79", "Ꭺ\uab7a", "Ꭻ\uab7b",
  "Ꭼ\uab7c", "Ꭽ\uab7d", "Ꭾ\uab7e", "Ꭿ\uab7f", "Ꮀ\uab80", "Ꮁ\uab81", "Ꮂ\uab82", "Ꮃ\uab83",
  "Ꮄ\uab84", "Ꮅ\uab85", "Ꮆ\uab86", "Ꮇ\uab87", "Ꮈ\uab88", "Ꮉ\uab89", "Ꮊ\uab8a", "Ꮋ\uab8b",
  "Ꮌ\uab8c", "Ꮍ\uab8d", "Ꮎ\uab8e", "Ꮏ\uab8f", "Ꮐ\uab90", "Ꮑ\uab91", "Ꮒ\uab92", "Ꮓ\uab93",
  "Ꮔ\uab94", "Ꮕ\uab95", "Ꮖ\uab96", "Ꮗ\uab97", "Ꮘ\uab98", "Ꮙ\uab99", "Ꮚ\uab9a", "Ꮛ\uab9b",
  "Ꮜ\uab9c", "Ꮝ\uab9d", "Ꮞ\uab9e", "Ꮟ\uab9f", "Ꮠ\uaba0", "Ꮡ\uaba1", "Ꮢ\uaba2", "Ꮣ\uaba3",
  "Ꮤ\uaba4", "Ꮥ\uaba5", "Ꮦ\uaba6", "Ꮧ\uaba7", "Ꮨ\uaba8", "Ꮩ\uaba9", "Ꮪ\uabaa", "Ꮫ\uabab",
  "Ꮬ\uabac", "Ꮭ\uabad", "Ꮮ\uabae", "Ꮯ\uabaf", "Ꮰ\uabb0", "Ꮱ\uabb1", "Ꮲ\uabb2", "Ꮳ\uabb3",
  "Ꮴ\uabb4", "Ꮵ\uabb5", "Ꮶ\uabb6", "Ꮷ\uabb7", "Ꮸ\uabb8", "Ꮹ\uabb9", "Ꮺ\uabba", "Ꮻ\uabbb",
  "Ꮼ\uabbc", "Ꮽ\uabbd", "Ꮾ\uabbe", "Ꮿ\uabbf", "Ᏸᏸ", "Ᏹᏹ", "Ᏺᏺ", "Ᏻᏻ", "Ᏼᏼ", "Ᏽᏽ",
  "ᲈ\ua64a\ua64b", "\u1c89\u1c8a", "ᵹ\ua77d", "ᵽ\u2c63", "ᶎ\ua7c6", "Ḁḁ", "Ḃḃ", "Ḅḅ", "Ḇḇ", "Ḉḉ",
  "Ḋḋ", "Ḍḍ", "Ḏḏ", "Ḑḑ", "Ḓḓ", "Ḕḕ", "Ḗḗ", "Ḙḙ", "Ḛḛ", "Ḝḝ", "Ḟḟ", "Ḡḡ", "Ḣḣ", "Ḥḥ", "Ḧḧ", "Ḩḩ",
  "Ḫḫ", "Ḭḭ", "Ḯḯ", "Ḱḱ", "Ḳḳ", "Ḵḵ", "Ḷḷ", "Ḹḹ", "Ḻḻ", "Ḽḽ", "Ḿḿ", "Ṁṁ", "Ṃṃ", "Ṅṅ", "Ṇṇ", "Ṉṉ",
  "Ṋṋ", "Ṍṍ", "Ṏṏ", "Ṑṑ", "Ṓṓ", "Ṕṕ", "Ṗṗ", "Ṙṙ", "Ṛṛ", "Ṝṝ", "Ṟṟ", "Ṡṡẛ", "Ṣṣ", "Ṥṥ", "Ṧṧ",
  "Ṩṩ", "Ṫṫ", "Ṭṭ", "Ṯṯ", "Ṱṱ", "Ṳṳ", "Ṵṵ", "Ṷṷ", "Ṹṹ", "Ṻṻ", "Ṽṽ", "Ṿṿ", "Ẁẁ", "Ẃẃ", "Ẅẅ", "Ẇẇ",
  "Ẉẉ", "Ẋẋ", "Ẍẍ", "Ẏẏ", "Ẑẑ", "Ẓẓ", "Ẕẕ", "Ạạ", "Ảả", "Ấấ", "Ầầ", "Ẩẩ", "Ẫẫ", "Ậậ", "Ắắ", "Ằằ",
  "Ẳẳ", "Ẵẵ", "Ặặ", "Ẹẹ", "Ẻẻ", "Ẽẽ", "Ếế", "Ềề", "Ểể", "Ễễ", "Ệệ", "Ỉỉ", "Ịị", "Ọọ", "Ỏỏ", "Ốố",
  "Ồồ", "Ổổ", "Ỗỗ", "Ộộ", "Ớớ", "Ờờ", "Ởở", "Ỡỡ", "Ợợ", "Ụụ", "Ủủ", "Ứứ", "Ừừ", "Ửử", "Ữữ", "Ựự",
  "Ỳỳ", "Ỵỵ", "Ỷỷ", "Ỹỹ", "Ỻỻ", "Ỽỽ", "Ỿỿ", "ἀἈ", "ἁἉ", "ἂἊ", "ἃἋ", "ἄἌ", "ἅἍ", "ἆἎ", "ἇἏ", "ἐἘ",
  "ἑἙ", "ἒἚ", "ἓἛ", "ἔἜ", "ἕἝ", "ἠἨ", "ἡἩ", "ἢἪ", "ἣἫ", "ἤἬ", "ἥἭ", "ἦἮ", "ἧἯ", "ἰἸ", "ἱἹ", "ἲἺ",
  "ἳἻ", "ἴἼ", "ἵἽ", "ἶἾ", "ἷἿ", "ὀὈ", "ὁὉ", "ὂὊ", "ὃὋ", "ὄὌ", "ὅὍ", "ὑὙ", "ὓὛ", "ὕὝ", "ὗὟ", "ὠὨ",
  "ὡὩ", "ὢὪ", "ὣὫ", "ὤὬ", "ὥὭ", "ὦὮ", "ὧὯ", "ὰᾺ", "άΆ", "ὲῈ", "έΈ", "ὴῊ", "ήΉ", "ὶῚ", "ίΊ", "ὸῸ",
  "όΌ", "ὺῪ", "ύΎ", "ὼῺ", "ώΏ", "ᾀᾈ", "ᾁᾉ", "ᾂᾊ", "ᾃᾋ", "ᾄᾌ", "ᾅᾍ", "ᾆᾎ", "ᾇᾏ", "ᾐᾘ", "ᾑᾙ", "ᾒᾚ",
  "ᾓᾛ", "ᾔᾜ", "ᾕᾝ", "ᾖᾞ", "ᾗᾟ", "ᾠᾨ", "ᾡᾩ", "ᾢᾪ", "ᾣᾫ", "ᾤᾬ", "ᾥᾭ", "ᾦᾮ", "ᾧᾯ", "ᾰᾸ", "ᾱᾹ", "ᾳᾼ",
  "ῃῌ", "ῐῘ", "ῑῙ", "ῠῨ", "ῡῩ", "ῥῬ", "ῳῼ", "\u2132\u214e", "\u2160\u2170", "\u2161\u2171",
  "\u2162\u2172", "\u2163\u2173", "\u2164\u2174", "\u2165\u2175", "\u2166\u2176", "\u2167\u2177",
  "\u2168\u2178", "\u2169\u2179", "\u216a\u217a", "\u216b\u217b", "\u216c\u217c", "\u216d\u217d",
  "\u216e\u217e", "\u216f\u217f", "\u2183\u2184", "\u24b6\u24d0", "\u24b7\u24d1", "\u24b8\u24d2",
  "\u24b9\u24d3", "\u24ba\u24d4", "\u24bb\u24d5", "\u24bc\u24d6", "\u24bd\u24d7", "\u24be\u24d8",
  "\u24bf\u24d9", "\u24c0\u24da", "\u24c1\u24db", "\u24c2\u24dc", "\u24c3\u24dd", "\u24c4\u24de",
  "\u24c5\u24df", "\u24c6\u24e0", "\u24c7\u24e1", "\u24c8\u24e2", "\u24c9\u24e3", "\u24ca\u24e4",
  "\u24cb\u24e5", "\u24cc\u24e6", "\u24cd\u24e7", "\u24ce\u24e8", "\u24cf\u24e9", "\u2c00\u2c30",
  "\u2c01\u2c31", "\u2c02\u2c32", "\u2c03\u2c33", "\u2c04\u2c34", "\u2c05\u2c35", "\u2c06\u2c36",
  "\u2c07\u2c37", "\u2c08\u2c38", "\u2c09\u2c39", "\u2c0a\u2c3a", "\u2c0b\u2c3b", "\u2c0c\u2c3c",
  "\u2c0d\u2c3d", "\u2c0e\u2c3e", "\u2c0f\u2c3f", "\u2c10\u2c40", "\u2c11\u2c41", "\u2c12\u2c42",
  "\u2c13\u2c43", "\u2c14\u2c44", "\u2c15\u2c45", "\u2c16\u2c46", "\u2c17\u2c47", "\u2c18\u2c48",
  "\u2c19\u2c49", "\u2c1a\u2c4a", "\u2c1b\u2c4b", "\u2c1c\u2c4c", "\u2c1d\u2c4d", "\u2c1e\u2c4e",
  "\u2c1f\u2c4f", "\u2c20\u2c50", "\u2c21\u2c51", "\u2c22\u2c52", "\u2c23\u2c53", "\u2c24\u2c54",
  "\u2c25\u2c55", "\u2c26\u2c56", "\u2c27\u2c57", "\u2c28\u2c58", "\u2c29\u2c59", "\u2c2a\u2c5a",
  "\u2c2b\u2c5b", "\u2c2c\u2c5c", "\u2c2d\u2c5d", "\u2c2e\u2c5e", "\u2c2f\u2c5f", "\u2c60\u2c61",
  "\u2c67\u2c68", "\u2c69\u2c6a", "\u2c6b\u2c6c", "\u2c72\u2c73", "\u2c75\u2c76", "\u2c80\u2c81",
  "\u2c82\u2c83", "\u2c84\u2c85", "\u2c86\u2c87", "\u2c88\u2c89", "\u2c8a\u2c8b", "\u2c8c\u2c8d",
  "\u2c8e\u2c8f", "\u2c90\u2c91", "\u2c92\u2c93", "\u2c94\u2c95", "\u2c96\u2c97", "\u2c98\u2c99",
  "\u2c9a\u2c9b", "\u2c9c\u2c9d", "\u2c9e\u2c9f", "\u2ca0\u2ca1", "\u2ca2\u2ca3", "\u2ca4\u2ca5",
  "\u2ca6\u2ca7", "\u2ca8\u2ca9", "\u2caa\u2cab", "\u2cac\u2cad", "\u2cae\u2caf", "\u2cb0\u2cb1",
  "\u2cb2\u2cb3", "\u2cb4\u2cb5", "\u2cb6\u2cb7", "\u2cb8\u2cb9", "\u2cba\u2cbb", "\u2cbc\u2cbd",
  "\u2cbe\u2cbf", "\u2cc0\u2cc1", "\u2cc2\u2cc3", "\u2cc4\u2cc5", "\u2cc6\u2cc7", "\u2cc8\u2cc9",
  "\u2cca\u2ccb", "\u2ccc\u2ccd", "\u2cce\u2ccf", "\u2cd0\u2cd1", "\u2cd2\u2cd3", "\u2cd4\u2cd5",
  "\u2cd6\u2cd7", "\u2cd8\u2cd9", "\u2cda\u2cdb", "\u2cdc\u2cdd", "\u2cde\u2cdf", "\u2ce0\u2ce1",
  "\u2ce2\u2ce3", "\u2ceb\u2cec", "\u2ced\u2cee", "\u2cf2\u2cf3", "\ua640\ua641", "\ua642\ua643",
  "\ua644\ua645", "\ua646\ua647", "\ua648\ua649", "\ua64c\ua64d", "\ua64e\ua64f", "\ua650\ua651",
  "\ua652\ua653", "\ua654\ua655", "\ua656\ua657", "\ua658\ua659", "\ua65a\ua65b", "\ua65c\ua65d",
  "\ua65e\ua65f", "\ua660\ua661", "\ua662\ua663", "\ua664\ua665", "\ua666\ua667", "\ua668\ua669",
  "\ua66a\ua66b", "\ua66c\ua66d", "\ua680\ua681", "\ua682\ua683", "\ua684\ua685", "\ua686\ua687",
  "\ua688\ua689", "\ua68a\ua68b", "\ua68c\ua68d", "\ua68e\ua68f", "\ua690\ua691", "\ua692\ua693",
  "\ua694\ua695", "\ua696\ua697", "\ua698\ua699", "\ua69a\ua69b", "\ua722\ua723", "\ua724\ua725",
  "\ua726\ua727", "\ua728\ua729", "\ua72a\ua72b", "\ua72c\ua72d", "\ua72e\ua72f", "\ua732\ua733",
  "\ua734\ua735", "\ua736\ua737", "\ua738\ua739", "\ua73a\ua73b", "\ua73c\ua73d", "\ua73e\ua73f",
  "\ua740\ua741", "\ua742\ua743", "\ua744\ua745", "\ua746\ua747", "\ua748\ua749", "\ua74a\ua74b",
  "\ua74c\ua74d", "\ua74e\ua74f", "\ua750\ua751", "\ua752\ua753", "\ua754\ua755", "\ua756\ua757",
  "\ua758\ua759", "\ua75a\ua75b", "\ua75c\ua75d", "\ua75e\ua75f", "\ua760\ua761", "\ua762\ua763",
  "\ua764\ua765", "\ua766\ua767", "\ua768\ua769", "\ua76a\ua76b", "\ua76c\ua76d", "\ua76e\ua76f",
  "\ua779\ua77a", "\ua77b\ua77c", "\ua77e\ua77f", "\ua780\ua781", "\ua782\ua783", "\ua784\ua785",
  "\ua786\ua787", "\ua78b\ua78c", "\ua790\ua791", "\ua792\ua793", "\ua794\ua7c4", "\ua796\ua797",
  "\ua798\ua799", "\ua79a\ua79b", "\ua79c\ua79d", "\ua79e\ua79f", "\ua7a0\ua7a1", "\ua7a2\ua7a3",
  "\ua7a4\ua7a5", "\ua7a6\ua7a7", "\ua7a8\ua7a9", "\ua7b3\uab53", "\ua7b4\ua7b5", "\ua7b6\ua7b7",
  "\ua7b8\ua7b9", "\ua7ba\ua7bb", "\ua7bc\ua7bd", "\ua7be\ua7bf", "\ua7c0\ua7c1", "\ua7c2\ua7c3",
  "\ua7c7\ua7c8", "\ua7c9\ua7ca", "\ua7cc\ua7cd", "\ua7d0\ua7d1", "\ua7d6\ua7d7", "\ua7d8\ua7d9",
  "\ua7da\ua7db", "\ua7f5\ua7f6", "\ufb05\ufb06", "\uff21\uff41", "\uff22\uff42", "\uff23\uff43",
  "\uff24\uff44", "\uff25\uff45", "\uff26\uff46", "\uff27\uff47", "\uff28\uff48", "\uff29\uff49",
  "\uff2a\uff4a", "\uff2b\uff4b", "\uff2c\uff4c", "\uff2d\uff4d", "\uff2e\uff4e", "\uff2f\uff4f",
  "\uff30\uff50", "\uff31\uff51", "\uff32\uff52", "\uff33\uff53", "\uff34\uff54", "\uff35\uff55",
  "\uff36\uff56", "\uff37\uff57", "\uff38\uff58", "\uff39\uff59", "\uff3a\uff5a", "𐐀𐐨", "𐐁𐐩",
  "𐐂𐐪", "𐐃𐐫", "𐐄𐐬", "𐐅𐐭", "𐐆𐐮", "𐐇𐐯", "𐐈𐐰", "𐐉𐐱", "𐐊𐐲", "𐐋𐐳", "𐐌𐐴", "𐐍𐐵", "𐐎𐐶", "𐐏𐐷", "𐐐𐐸", "𐐑𐐹",
  "𐐒𐐺", "𐐓𐐻", "𐐔𐐼", "𐐕𐐽", "𐐖𐐾", "𐐗𐐿", "𐐘𐑀", "𐐙𐑁", "𐐚𐑂", "𐐛𐑃", "𐐜𐑄", "𐐝𐑅", "𐐞𐑆", "𐐟𐑇", "𐐠𐑈", "𐐡𐑉",
  "𐐢𐑊", "𐐣𐑋", "𐐤𐑌", "𐐥𐑍", "𐐦𐑎", "𐐧𐑏", "𐒰𐓘", "𐒱𐓙", "𐒲𐓚", "𐒳𐓛", "𐒴𐓜", "𐒵𐓝", "𐒶𐓞", "𐒷𐓟", "𐒸𐓠", "𐒹𐓡",
  "𐒺𐓢", "𐒻𐓣", "𐒼𐓤", "𐒽𐓥", "𐒾𐓦", "𐒿𐓧", "𐓀𐓨", "𐓁𐓩", "𐓂𐓪", "𐓃𐓫", "𐓄𐓬", "𐓅𐓭", "𐓆𐓮", "𐓇𐓯", "𐓈𐓰", "𐓉𐓱",
  "𐓊𐓲", "𐓋𐓳", "𐓌𐓴", "𐓍𐓵", "𐓎𐓶", "𐓏𐓷", "𐓐𐓸", "𐓑𐓹", "𐓒𐓺", "𐓓𐓻", "𐕰𐖗", "𐕱𐖘", "𐕲𐖙", "𐕳𐖚", "𐕴𐖛", "𐕵𐖜",
  "𐕶𐖝", "𐕷𐖞", "𐕸𐖟", "𐕹𐖠", "𐕺𐖡", "𐕼𐖣", "𐕽𐖤", "𐕾𐖥", "𐕿𐖦", "𐖀𐖧", "𐖁𐖨", "𐖂𐖩", "𐖃𐖪", "𐖄𐖫", "𐖅𐖬", "𐖆𐖭",
  "𐖇𐖮", "𐖈𐖯", "𐖉𐖰", "𐖊𐖱", "𐖌𐖳", "𐖍𐖴", "𐖎𐖵", "𐖏𐖶", "𐖐𐖷", "𐖑𐖸", "𐖒𐖹", "𐖔𐖻", "𐖕𐖼", "𐲀𐳀", "𐲁𐳁", "𐲂𐳂",
  "𐲃𐳃", "𐲄𐳄", "𐲅𐳅", "𐲆𐳆", "𐲇𐳇", "𐲈𐳈", "𐲉𐳉", "𐲊𐳊", "𐲋𐳋", "𐲌𐳌", "𐲍𐳍", "𐲎𐳎", "𐲏𐳏", "𐲐𐳐", "𐲑𐳑", "𐲒𐳒",
  "𐲓𐳓", "𐲔𐳔", "𐲕𐳕", "𐲖𐳖", "𐲗𐳗", "𐲘𐳘", "𐲙𐳙", "𐲚𐳚", "𐲛𐳛", "𐲜𐳜", "𐲝𐳝", "𐲞𐳞", "𐲟𐳟", "𐲠𐳠", "𐲡𐳡", "𐲢𐳢",
  "𐲣𐳣", "𐲤𐳤", "𐲥𐳥", "𐲦𐳦", "𐲧𐳧", "𐲨𐳨", "𐲩𐳩", "𐲪𐳪", "𐲫𐳫", "𐲬𐳬", "𐲭𐳭", "𐲮𐳮", "𐲯𐳯", "𐲰𐳰", "𐲱𐳱", "𐲲𐳲",
  "𐵐𐵰", "𐵑𐵱", "𐵒𐵲", "𐵓𐵳", "𐵔𐵴", "𐵕𐵵", "𐵖𐵶", "𐵗𐵷", "𐵘𐵸", "𐵙𐵹", "𐵚𐵺", "𐵛𐵻", "𐵜𐵼", "𐵝𐵽", "𐵞𐵾", "𐵟𐵿",
  "𐵠𐶀", "𐵡𐶁", "𐵢𐶂", "𐵣𐶃", "𐵤𐶄", "𐵥𐶅", "𑢠𑣀", "𑢡𑣁", "𑢢𑣂", "𑢣𑣃", "𑢤𑣄", "𑢥𑣅", "𑢦𑣆", "𑢧𑣇", "𑢨𑣈", "𑢩𑣉",
  "𑢪𑣊", "𑢫𑣋", "𑢬𑣌", "𑢭𑣍", "𑢮𑣎", "𑢯𑣏", "𑢰𑣐", "𑢱𑣑", "𑢲𑣒", "𑢳𑣓", "𑢴𑣔", "𑢵𑣕", "𑢶𑣖", "𑢷𑣗", "𑢸𑣘", "𑢹𑣙",
  "𑢺𑣚", "𑢻𑣛", "𑢼𑣜", "𑢽𑣝", "𑢾𑣞", "𑢿𑣟", "𖹀𖹠", "𖹁𖹡", "𖹂𖹢", "𖹃𖹣", "𖹄𖹤", "𖹅𖹥", "𖹆𖹦", "𖹇𖹧", "𖹈𖹨", "𖹉𖹩",
  "𖹊𖹪", "𖹋𖹫", "𖹌𖹬", "𖹍𖹭", "𖹎𖹮", "𖹏𖹯", "𖹐𖹰", "𖹑𖹱", "𖹒𖹲", "𖹓𖹳", "𖹔𖹴", "𖹕𖹵", "𖹖𖹶", "𖹗𖹷", "𖹘𖹸", "𖹙𖹹",
  "𖹚𖹺", "𖹛𖹻", "𖹜𖹼", "𖹝𖹽", "𖹞𖹾", "𖹟𖹿", "𞤀𞤢", "𞤁𞤣", "𞤂𞤤", "𞤃𞤥", "𞤄𞤦", "𞤅𞤧", "𞤆𞤨", "𞤇𞤩", "𞤈𞤪", "𞤉𞤫",
  "𞤊𞤬", "𞤋𞤭", "𞤌𞤮", "𞤍𞤯", "𞤎𞤰", "𞤏𞤱", "𞤐𞤲", "𞤑𞤳", "𞤒𞤴", "𞤓𞤵", "𞤔𞤶", "𞤕𞤷", "𞤖𞤸", "𞤗𞤹", "𞤘𞤺", "𞤙𞤻",
  "𞤚𞤼", "𞤛𞤽", "𞤜𞤾", "𞤝𞤿", "𞤞𞥀", "𞤟𞥁", "𞤠𞥂", "𞤡𞥃"]

/-- The characters that differ from a character in case only, with the
character itself in front. -/
def caseVariants (c : Char) : List Char :=
  c :: (foldingClasses.filterMap fun s =>
    if s.toList.contains c then some (s.toList.filter (· != c)) else none).flatten

/-- All members of the classes that have a member in a set. -/
def variantsWithin (holds : Char → Bool) : List Char :=
  foldingClasses.flatMap fun s => if s.toList.any holds then s.toList else []

end Expectation.Unicode
