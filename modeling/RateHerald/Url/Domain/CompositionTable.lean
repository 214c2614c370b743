/-!
# Characters made of two: the table

A letter with a mark is mostly one character of its own. These are the characters of Unicode 17 that
may stand in a domain name and are made of two others; the syllables of Hangul, which follow a rule,
are left out.

## Main declarations

* `compositeLines` holds the characters and their parts.
-/

namespace RateHerald.Url.Domain

/-- Words of three characters: one that is made of two others, and these two. -/
def compositeLines : List String := [
  "àà áá ââ ãã ää åå çç èè éé êê ëë ìì íí îî ïï ññ òò óó ôô õõ öö ùù úú",
  "ûû üü ýý ÿÿ āā ăă ąą ćć ĉĉ ċċ čč ďď ēē ĕĕ ėė ęę ěě ĝĝ ğğ ġġ ģģ ĥĥ ĩĩ",
  "īī ĭĭ įį ĵĵ ķķ ĺĺ ļļ ľľ ńń ņņ ňň ōō ŏŏ őő ŕŕ ŗŗ řř śś ŝŝ şş šš ţţ ťť",
  "ũũ ūū ŭŭ ůů űű ųų ŵŵ ŷŷ źź żż žž ơơ ưư ǎǎ ǐǐ ǒǒ ǔǔ ǖǖ ǘǘ ǚǚ ǜǜ ǟǟ ǡǡ",
  "ǣǣ ǧǧ ǩǩ ǫǫ ǭǭ ǯǯ ǰǰ ǵǵ ǹǹ ǻǻ ǽǽ ǿǿ ȁȁ ȃȃ ȅȅ ȇȇ ȉȉ ȋȋ ȍȍ ȏȏ ȑȑ ȓȓ ȕȕ",
  "ȗȗ șș țț ȟȟ ȧȧ ȩȩ ȫȫ ȭȭ ȯȯ ȱȱ ȳȳ ΐΐ άά έέ ήή ίί ΰΰ ϊϊ ϋϋ όό ύύ ώώ йй",
  "ѐѐ ёё ѓѓ її ќќ ѝѝ ўў ѷѷ ӂӂ ӑӑ ӓӓ ӗӗ ӛӛ ӝӝ ӟӟ ӣӣ ӥӥ ӧӧ ӫӫ ӭӭ ӯӯ ӱӱ ӳӳ",
  "ӵӵ ӹӹ آآ أأ ؤؤ إإ ئئ ۀۀ ۂۂ ۓۓ ऩऩ ऱऱ ऴऴ োো ৌৌ ୈୈ ୋୋ ୌୌ ஔஔ ொொ ோோ ௌௌ ైై",
  "ೀೀ ೇೇ ೈೈ ೊೊ ೋೋ ൊൊ ോോ ൌൌ ේේ ොො ෝෝ ෞෞ ဦဦ ᬆᬆ ᬈᬈ ᬊᬊ ᬌᬌ ᬎᬎ ᬒᬒ ᬻᬻ ᬽᬽ ᭀᭀ ᭁᭁ",
  "ᭃᭃ ḁḁ ḃḃ ḅḅ ḇḇ ḉḉ ḋḋ ḍḍ ḏḏ ḑḑ ḓḓ ḕḕ ḗḗ ḙḙ ḛḛ ḝḝ ḟḟ ḡḡ ḣḣ ḥḥ ḧḧ ḩḩ ḫḫ",
  "ḭḭ ḯḯ ḱḱ ḳḳ ḵḵ ḷḷ ḹḹ ḻḻ ḽḽ ḿḿ ṁṁ ṃṃ ṅṅ ṇṇ ṉṉ ṋṋ ṍṍ ṏṏ ṑṑ ṓṓ ṕṕ ṗṗ ṙṙ",
  "ṛṛ ṝṝ ṟṟ ṡṡ ṣṣ ṥṥ ṧṧ ṩṩ ṫṫ ṭṭ ṯṯ ṱṱ ṳṳ ṵṵ ṷṷ ṹṹ ṻṻ ṽṽ ṿṿ ẁẁ ẃẃ ẅẅ ẇẇ",
  "ẉẉ ẋẋ ẍẍ ẏẏ ẑẑ ẓẓ ẕẕ ẖẖ ẗẗ ẘẘ ẙẙ ạạ ảả ấấ ầầ ẩẩ ẫẫ ậậ ắắ ằằ ẳẳ ẵẵ ặặ",
  "ẹẹ ẻẻ ẽẽ ếế ềề ểể ễễ ệệ ỉỉ ịị ọọ ỏỏ ốố ồồ ổổ ỗỗ ộộ ớớ ờờ ởở ỡỡ ợợ ụụ",
  "ủủ ứứ ừừ ửử ữữ ựự ỳỳ ỵỵ ỷỷ ỹỹ ἀἀ ἁἁ ἂἂ ἃἃ ἄἄ ἅἅ ἆἆ ἇἇ ἐἐ ἑἑ ἒἒ ἓἓ ἔἔ",
  "ἕἕ ἠἠ ἡἡ ἢἢ ἣἣ ἤἤ ἥἥ ἦἦ ἧἧ ἰἰ ἱἱ ἲἲ ἳἳ ἴἴ ἵἵ ἶἶ ἷἷ ὀὀ ὁὁ ὂὂ ὃὃ ὄὄ ὅὅ",
  "ὐὐ ὑὑ ὒὒ ὓὓ ὔὔ ὕὕ ὖὖ ὗὗ ὠὠ ὡὡ ὢὢ ὣὣ ὤὤ ὥὥ ὦὦ ὧὧ ὰὰ ὲὲ ὴὴ ὶὶ ὸὸ ὺὺ ὼὼ",
  "ᾰᾰ ᾱᾱ ᾶᾶ ῆῆ ῐῐ ῑῑ ῒῒ ῖῖ ῗῗ ῠῠ ῡῡ ῢῢ ῤῤ ῥῥ ῦῦ ῧῧ ῶῶ ↚↚ ↛↛ ↮↮ ⇍⇍ ⇎⇎ ⇏⇏",
  "∄∄ ∉∉ ∌∌ ∤∤ ∦∦ ≁≁ ≄≄ ≇≇ ≉≉ ≠≠ ≢≢ ≭≭ ≮≮ ≯≯ ≰≰ ≱≱ ≴≴ ≵≵ ≸≸ ≹≹ ⊀⊀ ⊁⊁ ⊄⊄",
  "⊅⊅ ⊈⊈ ⊉⊉ ⊬⊬ ⊭⊭ ⊮⊮ ⊯⊯ ⋠⋠ ⋡⋡ ⋢⋢ ⋣⋣ ⋪⋪ ⋫⋫ ⋬⋬ ⋭⋭ がが ぎぎ ぐぐ げげ ごご ざざ じじ ずず",
  "ぜぜ ぞぞ だだ ぢぢ づづ でで どど ばば ぱぱ びび ぴぴ ぶぶ ぷぷ べべ ぺぺ ぼぼ ぽぽ ゔゔ ゞゞ ガガ ギギ ググ ゲゲ",
  "ゴゴ ザザ ジジ ズズ ゼゼ ゾゾ ダダ ヂヂ ヅヅ デデ ドド ババ パパ ビビ ピピ ブブ ププ ベベ ペペ ボボ ポポ ヴヴ ヷヷ",
  "ヸヸ ヹヹ ヺヺ ヾヾ 𐗉𐗉 𐗤𐗤 𑂚𑂚 𑂜𑂜 𑂫𑂫 𑄮𑄮 𑄯𑄯 𑍋𑍋 𑍌𑍌 𑎃𑎃 𑎅𑎅 𑎎𑎎 𑎑𑎑 𑏅𑏅 𑏇𑏇 𑏈𑏈 𑒻𑒻 𑒼𑒼 𑒾𑒾",
  "𑖺𑖺 𑖻𑖻 𑤸𑤸 𖄡𖄡 𖄢𖄢 𖄣𖄣 𖄤𖄤 𖄥𖄥 𖄦𖄦 𖄧𖄧 𖄨𖄨 𖵨𖵨 𖵩𖵩 𖵪𖵪"]

end RateHerald.Url.Domain
