namespace UrlHandoff.Text

/-- A mark, the characters that it can be added to, and in the same order what they become. -/
structure Accent where
  mark : Nat
  bases : String
  composites : String

def accents : List Accent :=
  [⟨0x300, "aeinouwyâêôüăēōơ",
      "àèìǹòùẁỳầềồǜằḕṑờ"⟩,
   ⟨0x300, "ưαεηιουωϊϋеиἀἁἐἑ",
      "ừὰὲὴὶὸὺὼῒῢѐѝἂἃἒἓ"⟩,
   ⟨0x300, "ἠἡἰἱὀὁὐὑὠὡ",
      "ἢἣἲἳὂὃὒὓὢὣ"⟩,
   ⟨0x301, "acegiklmnoprsuwy",
      "áćéǵíḱĺḿńóṕŕśúẃý"⟩,
   ⟨0x301, "zâåæçêïôõøüăēōũơ",
      "źấǻǽḉếḯốṍǿǘắḗṓṹớ"⟩,
   ⟨0x301, "ưαεηιουωϊϋгкἀἁἐἑ",
      "ứάέήίόύώΐΰѓќἄἅἔἕ"⟩,
   ⟨0x301, "ἠἡἰἱὀὁὐὑὠὡ",
      "ἤἥἴἵὄὅὔὕὤὥ"⟩,
   ⟨0x302, "aceghijosuwyzạẹọ",
      "âĉêĝĥîĵôŝûŵŷẑậệộ"⟩,
   ⟨0x303, "aeinouvyâêôăơư",
      "ãẽĩñõũṽỹẫễỗẵỡữ"⟩,
   ⟨0x304, "aegiouyäæõöüǫȧȯα",
      "āēḡīōūȳǟǣȭȫǖǭǡȱᾱ"⟩,
   ⟨0x304, "ιυиуḷṛ",
      "ῑῡӣӯḹṝ"⟩,
   ⟨0x306, "aegiouȩαιυаежиуạ",
      "ăĕğĭŏŭḝᾰῐῠӑӗӂйўặ"⟩,
   ⟨0x307, "abcdefghmnoprstw",
      "ȧḃċḋėḟġḣṁṅȯṗṙṡṫẇ"⟩,
   ⟨0x307, "xyzśšṣ𐗒𐗚",
      "ẋẏżṥṧṩ𐗉𐗤"⟩,
   ⟨0x308, "aehiotuwxyõūιυае",
      "äëḧïöẗüẅẍÿṏṻϊϋӓё"⟩,
   ⟨0x308, "жзиоучыэіәө",
      "ӝӟӥӧӱӵӹӭїӛӫ"⟩,
   ⟨0x309, "aeiouyâêôăơư",
      "ảẻỉỏủỷẩểổẳởử"⟩,
   ⟨0x30A, "auwy",
      "åůẘẙ"⟩,
   ⟨0x30B, "ouу",
      "őűӳ"⟩,
   ⟨0x30C, "acdeghijklnorstu",
      "ǎčďěǧȟǐǰǩľňǒřšťǔ"⟩,
   ⟨0x30C, "züʒ",
      "žǚǯ"⟩,
   ⟨0x30F, "aeioruѵ",
      "ȁȅȉȍȑȕѷ"⟩,
   ⟨0x311, "aeioru",
      "ȃȇȋȏȓȗ"⟩,
   ⟨0x313, "αεηιορυω",
      "ἀἐἠἰὀῤὐὠ"⟩,
   ⟨0x314, "αεηιορυω",
      "ἁἑἡἱὁῥὑὡ"⟩,
   ⟨0x31B, "ou",
      "ơư"⟩,
   ⟨0x323, "abdehiklmnorstuv",
      "ạḅḍẹḥịḳḷṃṇọṛṣṭụṿ"⟩,
   ⟨0x323, "wyzơư",
      "ẉỵẓợự"⟩,
   ⟨0x324, "u",
      "ṳ"⟩,
   ⟨0x325, "a",
      "ḁ"⟩,
   ⟨0x326, "st",
      "șț"⟩,
   ⟨0x327, "cdeghklnrst",
      "çḑȩģḩķļņŗşţ"⟩,
   ⟨0x328, "aeiou",
      "ąęįǫų"⟩,
   ⟨0x32D, "delntu",
      "ḓḙḽṋṱṷ"⟩,
   ⟨0x32E, "h",
      "ḫ"⟩,
   ⟨0x330, "eiu",
      "ḛḭṵ"⟩,
   ⟨0x331, "bdhklnrtz",
      "ḇḏẖḵḻṉṟṯẕ"⟩,
   ⟨0x338, "<=>←→↔⇐⇒⇔∃∈∋∣∥∼≃",
      "≮≠≯↚↛↮⇍⇏⇎∄∉∌∤∦≁≄"⟩,
   ⟨0x338, "≅≈≍≡≤≥≲≳≶≷≺≻≼≽⊂⊃",
      "≇≉≭≢≰≱≴≵≸≹⊀⊁⋠⋡⊄⊅"⟩,
   ⟨0x338, "⊆⊇⊑⊒⊢⊨⊩⊫⊲⊳⊴⊵",
      "⊈⊉⋢⋣⊬⊭⊮⊯⋪⋫⋬⋭"⟩,
   ⟨0x342, "αηιυωϊϋἀἁἠἡἰἱὐὑὠ",
      "ᾶῆῖῦῶῗῧἆἇἦἧἶἷὖὗὦ"⟩,
   ⟨0x342, "ὡ",
      "ὧ"⟩,
   ⟨0x653, "\u0627",
      "\u0622"⟩,
   ⟨0x654, "\u0627\u0648\u064a\u06c1\u06d2\u06d5",
      "\u0623\u0624\u0626\u06c2\u06d3\u06c0"⟩,
   ⟨0x655, "\u0627",
      "\u0625"⟩,
   ⟨0x93C, "नरळ",
      "ऩऱऴ"⟩,
   ⟨0x9BE, "\u09c7",
      "\u09cb"⟩,
   ⟨0x9D7, "\u09c7",
      "\u09cc"⟩,
   ⟨0xB3E, "\u0b47",
      "\u0b4b"⟩,
   ⟨0xB56, "\u0b47",
      "\u0b48"⟩,
   ⟨0xB57, "\u0b47",
      "\u0b4c"⟩,
   ⟨0xBBE, "\u0bc6\u0bc7",
      "\u0bca\u0bcb"⟩,
   ⟨0xBD7, "ஒ\u0bc6",
      "ஔ\u0bcc"⟩,
   ⟨0xC56, "\u0c46",
      "\u0c48"⟩,
   ⟨0xCC2, "\u0cc6",
      "\u0cca"⟩,
   ⟨0xCD5, "\u0cbf\u0cc6\u0cca",
      "\u0cc0\u0cc7\u0ccb"⟩,
   ⟨0xCD6, "\u0cc6",
      "\u0cc8"⟩,
   ⟨0xD3E, "\u0d46\u0d47",
      "\u0d4a\u0d4b"⟩,
   ⟨0xD57, "\u0d46",
      "\u0d4c"⟩,
   ⟨0xDCA, "\u0dd9\u0ddc",
      "\u0dda\u0ddd"⟩,
   ⟨0xDCF, "\u0dd9",
      "\u0ddc"⟩,
   ⟨0xDDF, "\u0dd9",
      "\u0dde"⟩,
   ⟨0x102E, "ဥ",
      "ဦ"⟩,
   ⟨0x1B35, "ᬅᬇᬉᬋᬍᬑ\u1b3a\u1b3c\u1b3e\u1b3f\u1b42",
      "ᬆᬈᬊᬌᬎᬒ\u1b3b\u1b3d\u1b40\u1b41\u1b43"⟩,
   ⟨0x3099, "うかきくけこさしすせそたちつてと",
      "ゔがぎぐげござじずぜぞだぢづでど"⟩,
   ⟨0x3099, "はひふへほゝウカキクケコサシスセ",
      "ばびぶべぼゞヴガギグゲゴザジズゼ"⟩,
   ⟨0x3099, "ソタチツテトハヒフヘホワヰヱヲヽ",
      "ゾダヂヅデドバビブベボヷヸヹヺヾ"⟩,
   ⟨0x309A, "はひふへほハヒフヘホ",
      "ぱぴぷぺぽパピプペポ"⟩,
   ⟨0x110BA, "𑂙𑂛𑂥",
      "𑂚𑂜𑂫"⟩,
   ⟨0x11127, "𑄱𑄲",
      "𑄮𑄯"⟩,
   ⟨0x1133E, "𑍇",
      "𑍋"⟩,
   ⟨0x11357, "𑍇",
      "𑍌"⟩,
   ⟨0x113B8, "𑏂",
      "𑏇"⟩,
   ⟨0x113BB, "𑎄",
      "𑎅"⟩,
   ⟨0x113C2, "𑎎",
      "𑎎𑏅"⟩,
   ⟨0x113C9, "𑎂𑎐𑏂",
      "𑎃𑎑𑏈"⟩,
   ⟨0x114B0, "𑒹",
      "𑒼"⟩,
   ⟨0x114BA, "𑒹",
      "𑒻"⟩,
   ⟨0x114BD, "𑒹",
      "𑒾"⟩,
   ⟨0x115AF, "𑖸𑖹",
      "𑖺𑖻"⟩,
   ⟨0x11930, "𑤵",
      "𑤸"⟩,
   ⟨0x1611E, "𖄞",
      "𖄡"⟩,
   ⟨0x1611F, "𖄡𖄡𖄩𖄩",
      "𖄣𖄦𖄧𖄤"⟩,
   ⟨0x16120, "𖄡𖄞",
      "𖄥𖄨"⟩,
   ⟨0x16129, "𖄞",
      "𖄢"⟩,
   ⟨0x16D67, "𖵩𖵩",
      "𖵪𖵧𖵪"⟩]

end UrlHandoff.Text
