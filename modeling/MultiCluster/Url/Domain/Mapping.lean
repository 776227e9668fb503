import MultiCluster.Text.Ranges

/-! What the characters of a domain stand for: capital letters for small ones, forms of a character
for the character itself, and some for nothing at all. -/
namespace MultiCluster.Url.Domain

/-- Code points that stand for nothing. -/
def ignoredRanges : List (Nat × Nat) :=
  [(0xAD, 0xAD), (0x34F, 0x34F), (0x115F, 0x1160), (0x17B4, 0x17B5), (0x180B, 0x180F),
   (0x200B, 0x200B), (0x2060, 0x2064), (0x206A, 0x206F), (0x3164, 0x3164), (0xFE00, 0xFE0F),
   (0xFEFF, 0xFEFF), (0xFFA0, 0xFFA0), (0x1BCA0, 0x1BCA3), (0x1D173, 0x1D17A), (0xE0100, 0xE01EF)]

/-- Code points that stand for one character: the first of a row, the distance from one to the next,
and what they stand for. -/
def letterRows : List (Nat × Nat × String) :=
  [(0xA0, 1, " "), (0xAA, 1, "a"), (0xB2, 1, "23"), (0xB5, 1, "μ"), (0xB9, 1, "1o"),
   (0xC0, 1, "àáâãäåæçèéêëìíîïðñòóôõö"), (0xD8, 1, "øùúûüýþ"),
   (0x100, 2, "āăąćĉċčďđēĕėęěĝğġģĥħĩīĭį"), (0x134, 2, "ĵķ"), (0x139, 2, "ĺļľ"), (0x141, 2, "łńņň"),
   (0x14A, 2, "ŋōŏőœŕŗřśŝşšţťŧũūŭůűųŵŷÿ"), (0x179, 2, "źżžsɓ"), (0x182, 2, "ƃƅɔ"), (0x187, 2, "ƈɖ"),
   (0x18A, 1, "ɗƌ"), (0x18E, 1, "ǝəɛƒ"), (0x193, 1, "ɠɣ"), (0x196, 1, "ɩɨƙ"), (0x19C, 1, "ɯɲ"),
   (0x19F, 1, "ɵơ"), (0x1A2, 2, "ƣƥʀ"), (0x1A7, 2, "ƨʃ"), (0x1AC, 2, "ƭʈ"), (0x1AF, 2, "ưʊ"),
   (0x1B2, 1, "ʋƴ"), (0x1B5, 2, "ƶʒ"), (0x1B8, 1, "ƹ"), (0x1BC, 1, "ƽ"), (0x1CD, 2, "ǎǐǒǔǖǘǚǜ"),
   (0x1DE, 2, "ǟǡǣǥǧǩǫǭǯ"), (0x1F4, 2, "ǵƕ"), (0x1F7, 1, "ƿǹ"),
   (0x1FA, 2, "ǻǽǿȁȃȅȇȉȋȍȏȑȓȕȗșțȝȟƞȣȥȧȩȫȭȯȱȳ"), (0x23A, 1, "ⱥȼ"), (0x23D, 1, "ƚⱦ"),
   (0x241, 2, "ɂƀ"), (0x244, 1, "ʉʌɇ"), (0x248, 2, "ɉɋɍɏ"), (0x2B0, 1, "hɦjrɹɻʁwy"),
   (0x2E0, 1, "ɣlsxʕ"), (0x340, 1, "\u0300\u0301"), (0x343, 1, "\u0313"), (0x345, 1, "ι"),
   (0x370, 2, "ͱͳʹͷ"), (0x37E, 1, ";ϳ"), (0x386, 1, "ά·έήί"), (0x38C, 2, "όύ"), (0x38F, 2, "ώα"),
   (0x392, 1, "βγδεζηθικλμνξοπρ"), (0x3A3, 1, "στυφχψωϊϋ"), (0x3CF, 1, "ϗβθυύϋφπ"),
   (0x3D8, 2, "ϙϛϝϟϡϣϥϧϩϫϭϯκ"), (0x3F1, 1, "ρσ"), (0x3F4, 1, "θε"), (0x3F7, 2, "ϸσ"),
   (0x3FA, 1, "ϻ"), (0x3FD, 1, "ͻͼͽѐёђѓєѕіїјљњћќѝўџабвгдежзийклмнопрстуфхцчшщъыьэюя"),
   (0x460, 2, "ѡѣѥѧѩѫѭѯѱѳѵѷѹѻѽѿҁ"), (0x48A, 2, "ҋҍҏґғҕҗҙқҝҟҡңҥҧҩҫҭүұҳҵҷҹһҽҿӏ"),
   (0x4C1, 2, "ӂӄӆӈӊӌӎ"), (0x4D0, 2, "ӑӓӕӗәӛӝӟӡӣӥӧөӫӭӯӱӳӵӷӹӻӽӿԁԃԅԇԉԋԍԏԑԓԕԗԙԛԝԟԡԣԥԧԩԫԭԯ"),
   (0x531, 1, "աբգդեզէըթժիլխծկհձղճմյնշոչպջռսվտրցւփքօֆ"), (0xF0C, 1, "་"),
   (0x10A0, 1, "ⴀⴁⴂⴃⴄⴅⴆⴇⴈⴉⴊⴋⴌⴍⴎⴏⴐⴑⴒⴓⴔⴕⴖⴗⴘⴙⴚⴛⴜⴝⴞⴟⴠⴡⴢⴣⴤⴥ"), (0x10C7, 1, "ⴧ"), (0x10CD, 1, "ⴭ"),
   (0x10FC, 1, "ნ"), (0x13F8, 1, "ᏰᏱᏲᏳᏴᏵ"), (0x1C80, 1, "вдосттъѣꙋ\u1c8a"),
   (0x1C90, 1, "აბგდევზთიკლმნოპჟრსტუფქღყშჩცძწჭხჯჰჱჲჳჴჵჶჷჸჹჺ"), (0x1CBD, 1, "ჽჾჿ"),
   (0x1D2C, 1, "aæb"), (0x1D30, 1, "deǝghijklmn"), (0x1D3C, 1, "oȣprtuwaɐɑᴂbdeəɛɜg"),
   (0x1D4F, 1, "kmŋoɔᴖᴗptuᴝɯvᴥβγδφχiruvβγρφχ"), (0x1D78, 1, "н"),
   (0x1D9B, 1, "ɒcɕðɜfɟɡɥɨɩɪᵻʝɭᶅʟɱɰɲɳɴɵɸʂʃƫʉʊᴜʋʌzʐʑʒθ"),
   (0x1E00, 2, "ḁḃḅḇḉḋḍḏḑḓḕḗḙḛḝḟḡḣḥḧḩḫḭḯḱḳḵḷḹḻḽḿṁṃṅṇṉṋṍṏṑṓṕṗṙṛṝṟṡṣṥṧṩṫṭṯṱṳṵṷṹṻṽṿẁẃẅẇẉẋẍẏ"),
   (0x1E90, 2, "ẑẓẕ"), (0x1E9B, 1, "ṡ"),
   (0x1E9E, 2, "ßạảấầẩẫậắằẳẵặẹẻẽếềểễệỉịọỏốồổỗộớờởỡợụủứừửữựỳỵỷỹỻỽỿ"), (0x1F08, 1, "ἀἁἂἃἄἅἆἇ"),
   (0x1F18, 1, "ἐἑἒἓἔἕ"), (0x1F28, 1, "ἠἡἢἣἤἥἦἧ"), (0x1F38, 1, "ἰἱἲἳἴἵἶἷ"), (0x1F48, 1, "ὀὁὂὃὄὅ"),
   (0x1F59, 2, "ὑὓὕὗ"), (0x1F68, 1, "ὠὡὢὣὤὥὦὧ"), (0x1F71, 2, "άέήίόύώ"), (0x1FB8, 1, "ᾰᾱὰά"),
   (0x1FBE, 1, "ι"), (0x1FC8, 1, "ὲέὴή"), (0x1FD3, 1, "ΐ"), (0x1FD8, 1, "ῐῑὶί"), (0x1FE3, 1, "ΰ"),
   (0x1FE8, 1, "ῠῡὺύῥ"), (0x1FEF, 1, "\x60"), (0x1FF8, 1, "ὸόὼώ"), (0x2000, 1, "           "),
   (0x2011, 1, "‐"), (0x202F, 1, " "), (0x205F, 1, " "), (0x2070, 1, "0i"),
   (0x2074, 1, "456789+−=()n0123456789+−=()"), (0x2090, 1, "aeoxəhklmnpst"), (0x2102, 1, "c"),
   (0x2107, 1, "ɛ"), (0x210A, 1, "ghhhhħiill"), (0x2115, 1, "n"), (0x2119, 1, "pqrrr"),
   (0x2124, 2, "zωzk"), (0x212B, 1, "åbc"), (0x212F, 1, "eefⅎmo\u05d0\u05d1\u05d2\u05d3i"),
   (0x213C, 1, "πγγπ∑"), (0x2145, 1, "ddeij"), (0x2160, 1, "i"), (0x2164, 1, "v"), (0x2169, 1, "x"),
   (0x216C, 1, "lcdmi"), (0x2174, 1, "v"), (0x2179, 1, "x"), (0x217C, 1, "lcdm"), (0x2183, 1, "ↄ"),
   (0x2329, 1, "〈〉"), (0x2460, 1, "123456789"),
   (0x24B6, 1, "abcdefghijklmnopqrstuvwxyzabcdefghijklmnopqrstuvwxyz0"),
   (0x2C00, 1, "ⰰⰱⰲⰳⰴⰵⰶⰷⰸⰹⰺⰻⰼⰽⰾⰿⱀⱁⱂⱃⱄⱅⱆⱇⱈⱉⱊⱋⱌⱍⱎⱏⱐⱑⱒⱓⱔⱕⱖⱗⱘⱙⱚⱛⱜⱝⱞⱟ"), (0x2C60, 2, "ⱡɫ"),
   (0x2C63, 1, "ᵽɽ"), (0x2C67, 2, "ⱨⱪⱬɑ"), (0x2C6E, 1, "ɱɐɒ"), (0x2C72, 1, "ⱳ"), (0x2C75, 1, "ⱶ"),
   (0x2C7C, 1, "jvȿɀⲁ"), (0x2C82, 2, "ⲃⲅⲇⲉⲋⲍⲏⲑⲓⲕⲗⲙⲛⲝⲟⲡⲣⲥⲧⲩⲫⲭⲯⲱⲳⲵⲷⲹⲻⲽⲿⳁⳃⳅⳇⳉⳋⳍⳏⳑⳓⳕⳗⳙⳛⳝⳟⳡⳣ"),
   (0x2CEB, 2, "ⳬⳮ"), (0x2CF2, 1, "ⳳ"), (0x2D6F, 1, "ⵡ"), (0x2E9F, 1, "母"), (0x2EF3, 1, "龟"),
   (0x2F00, 1, "一丨丶丿乙亅二亠人儿入八冂冖冫几凵刀力勹匕匚匸十卜卩厂厶又口囗土士夂夊夕"),
   (0x2F24, 1, "大女子宀寸小尢尸屮山巛工己巾干幺广廴廾弋弓彐彡彳心戈戶手支攴文斗斤方无日"),
   (0x2F48, 1, "曰月木欠止歹殳毋比毛氏气水火爪父爻爿片牙牛犬玄玉瓜瓦甘生用田疋疒癶白皮皿"),
   (0x2F6C, 1, "目矛矢石示禸禾穴立竹米糸缶网羊羽老而耒耳聿肉臣自至臼舌舛舟艮色艸虍虫血行"),
   (0x2F90, 1, "衣襾見角言谷豆豕豸貝赤走足身車辛辰辵邑酉釆里金長門阜隶隹雨靑非面革韋韭音"),
   (0x2FB4, 1, "頁風飛食首香馬骨高髟鬥鬯鬲鬼魚鳥鹵鹿麥麻黃黍黑黹黽鼎鼓鼠鼻齊齒龍龜龠"),
   (0x3000, 2, " ."), (0x3036, 2, "〒十"), (0x3039, 1, "卄卅"),
   (0x3131, 1, "ᄀᄁᆪᄂᆬᆭᄃᄄᄅᆰᆱᆲᆳᆴᆵᄚᄆᄇᄈᄡᄉᄊᄋᄌᄍᄎᄏᄐᄑ하ᅢᅣᅤᅥᅦᅧᅨᅩᅪᅫᅬᅭᅮᅯᅰᅱᅲᅳᅴᅵ"),
   (0x3165, 1, "ᄔᄕᇇᇈᇌᇎᇓᇗᇙᄜᇝᇟᄝᄞᄠᄢᄣᄧᄩᄫᄬᄭᄮᄯᄲᄶᅀᅇᅌᇱᇲᅗᅘᅙᆄᆅᆈᆑᆒᆔᆞᆡ"),
   (0x3192, 1, "一二三四上中下甲乙丙丁天地人"), (0x3244, 1, "問幼文箏"),
   (0x3260, 1, "ᄀᄂᄃᄅᄆᄇᄉᄋᄌᄎᄏᄐᄑᄒ가나다라마바사아자차카타파하"), (0x327E, 2, "우一"),
   (0x3281, 1, "二三四五六七八九十月火水木金土日株有社名特財祝労秘男女適優印注項休写正上"),
   (0x32A5, 1, "中下左右医宗学監企資協夜"),
   (0x32D0, 1, "アイウエオカキクケコサシスセソタチツテトナニヌネノハヒフヘホマミムメモヤ"),
   (0x32F4, 1, "ユヨラリルレロワヰヱヲ"), (0xA640, 2, "ꙁꙃꙅꙇꙉꙋꙍꙏꙑꙓꙕꙗꙙꙛꙝꙟꙡꙣꙥꙧꙩꙫꙭ"),
   (0xA680, 2, "ꚁꚃꚅꚇꚉꚋꚍꚏꚑꚓꚕꚗꚙꚛъ"), (0xA69D, 1, "ь"), (0xA722, 2, "ꜣꜥꜧꜩꜫꜭꜯ"),
   (0xA732, 2, "ꜳꜵꜷꜹꜻꜽꜿꝁꝃꝅꝇꝉꝋꝍꝏꝑꝓꝕꝗꝙꝛꝝꝟꝡꝣꝥꝧꝩꝫꝭꝯꝯ"), (0xA779, 2, "ꝺꝼᵹ"), (0xA77E, 2, "ꝿꞁꞃꞅꞇ"),
   (0xA78B, 2, "ꞌɥ"), (0xA790, 2, "ꞑꞓ"), (0xA796, 2, "ꞗꞙꞛꞝꞟꞡꞣꞥꞧꞩɦ"), (0xA7AB, 1, "ɜɡɬɪ"),
   (0xA7B0, 1, "ʞʇʝꭓꞵ"), (0xA7B6, 2, "ꞷꞹꞻꞽꞿꟁꟃꞔ"), (0xA7C5, 1, "ʂᶎꟈ"), (0xA7C9, 2, "ꟊɤ"),
   (0xA7CC, 2, "\ua7cd\ua7cfꟑꟓꟕꟗꟙ\ua7dbƛ"), (0xA7F1, 1, "scfqꟶ"), (0xA7F8, 1, "ħœ"),
   (0xAB5C, 1, "ꜧꬷɫꭒ"), (0xAB69, 1, "ʍ"),
   (0xAB70, 1, "ᎠᎡᎢᎣᎤᎥᎦᎧᎨᎩᎪᎫᎬᎭᎮᎯᎰᎱᎲᎳᎴᎵᎶᎷᎸᎹᎺᎻᎼᎽᎾᎿᏀᏁᏂᏃᏄᏅᏆᏇᏈᏉᏊᏋᏌᏍᏎᏏᏐᏑᏒᏓᏔᏕᏖᏗᏘᏙᏚᏛᏜᏝᏞᏟᏠᏡᏢᏣᏤᏥᏦᏧ"),
   (0xABB8, 1, "ᏨᏩᏪᏫᏬᏭᏮᏯ"),
   (0xF900, 1, "豈更車賈滑串句龜龜契金喇奈懶癩羅蘿螺裸邏樂洛烙珞落酪駱亂卵欄爛蘭鸞嵐濫藍"),
   (0xF924, 1, "襤拉臘蠟廊朗浪狼郎來冷勞擄櫓爐盧老蘆虜路露魯鷺碌祿綠菉錄鹿論壟弄籠聾牢磊"),
   (0xF948, 1, "賂雷壘屢樓淚漏累縷陋勒肋凜凌稜綾菱陵讀拏樂諾丹寧怒率異北磻便復不泌數索參"),
   (0xF96C, 1, "塞省葉說殺辰沈拾若掠略亮兩凉梁糧良諒量勵呂女廬旅濾礪閭驪麗黎力曆歷轢年憐"),
   (0xF990, 1, "戀撚漣煉璉秊練聯輦蓮連鍊列劣咽烈裂說廉念捻殮簾獵令囹寧嶺怜玲瑩羚聆鈴零靈"),
   (0xF9B4, 1, "領例禮醴隸惡了僚寮尿料樂燎療蓼遼龍暈阮劉杻柳流溜琉留硫紐類六戮陸倫崙淪輪"),
   (0xF9D8, 1, "律慄栗率隆利吏履易李梨泥理痢罹裏裡里離匿溺吝燐璘藺隣鱗麟林淋臨立笠粒狀炙"),
   (0xF9FC, 1, "識什茶刺切度拓糖宅洞暴輻行降見廓兀嗀"), (0xFA10, 2, "塚晴"),
   (0xFA15, 1, "凞猪益礼神祥福靖精羽"), (0xFA20, 2, "蘒諸"), (0xFA25, 1, "逸都"),
   (0xFA2A, 1, "飯飼館鶴郞隷侮僧免勉勤卑喝嘆器塀墨層屮悔慨憎懲敏既暑梅海渚漢煮爫琢碑社祉"),
   (0xFA4E, 1, "祈祐祖祝禍禎穀突節練縉繁署者臭艹艹著褐視謁謹賓贈辶逸難響頻恵𤋮舘"),
   (0xFA70, 1, "並况全侀充冀勇勺喝啕喙嗢塚墳奄奔婢嬨廒廙彩徭惘慎愈憎慠懲戴揄搜摒敖晴朗望"),
   (0xFA94, 1, "杖歹殺流滛滋漢瀞煮瞧爵犯猪瑱甆画瘝瘟益盛直睊着磌窱節类絛練缾者荒華蝹襁覆"),
   (0xFAB8, 1, "視調諸請謁諾諭謹變贈輸遲醙鉶陼難靖韛響頋頻鬒龜𢡊𢡄𣏕㮝䀘䀹𥉉𥳐𧻓齃龎"),
   (0xFB20, 1, "\u05e2\u05d0\u05d3\u05d4\u05db\u05dc\u05dd\u05e8\u05ea+"),
   (0xFB50, 1, "\u0671\u0671\u067b\u067b\u067b\u067b\u067e\u067e\u067e\u067e\u0680\u0680"),
   (0xFB5C, 1, "\u0680\u0680\u067a\u067a\u067a\u067a\u067f\u067f\u067f\u067f\u0679\u0679"),
   (0xFB68, 1, "\u0679\u0679\u06a4\u06a4\u06a4\u06a4\u06a6\u06a6\u06a6\u06a6\u0684\u0684"),
   (0xFB74, 1, "\u0684\u0684\u0683\u0683\u0683\u0683\u0686\u0686\u0686\u0686\u0687\u0687"),
   (0xFB80, 1, "\u0687\u0687\u068d\u068d\u068c\u068c\u068e\u068e\u0688\u0688\u0698\u0698"),
   (0xFB8C, 1, "\u0691\u0691\u06a9\u06a9\u06a9\u06a9\u06af\u06af\u06af\u06af\u06b3\u06b3"),
   (0xFB98, 1, "\u06b3\u06b3\u06b1\u06b1\u06b1\u06b1\u06ba\u06ba\u06bb\u06bb\u06bb\u06bb"),
   (0xFBA4, 1, "\u06c0\u06c0\u06c1\u06c1\u06c1\u06c1\u06be\u06be\u06be\u06be\u06d2\u06d2"),
   (0xFBB0, 1, "\u06d3\u06d3"),
   (0xFBD3, 1, "\u06ad\u06ad\u06ad\u06ad\u06c7\u06c7\u06c6\u06c6\u06c8\u06c8"),
   (0xFBDE, 1, "\u06cb\u06cb\u06c5\u06c5\u06c9\u06c9\u06d0\u06d0\u06d0\u06d0\u0649\u0649"),
   (0xFBFC, 1, "\u06cc\u06cc\u06cc\u06cc"), (0xFE10, 1, ",、"), (0xFE13, 1, ":;!?〖〗"),
   (0xFE31, 1, "—–__()\x7b\x7d〔〕【】《》〈〉「」『』"), (0xFE47, 1, "[]"), (0xFE4D, 1, "___,、"),
   (0xFE54, 1, ";:?!—()\x7b\x7d〔〕#&*+-<>="), (0xFE68, 1, "\\$%@"),
   (0xFE80, 1, "\u0621\u0622\u0622\u0623\u0623\u0624\u0624\u0625\u0625\u0626\u0626\u0626"),
   (0xFE8C, 1, "\u0626\u0627\u0627\u0628\u0628\u0628\u0628\u0629\u0629\u062a\u062a\u062a"),
   (0xFE98, 1, "\u062a\u062b\u062b\u062b\u062b\u062c\u062c\u062c\u062c\u062d\u062d\u062d"),
   (0xFEA4, 1, "\u062d\u062e\u062e\u062e\u062e\u062f\u062f\u0630\u0630\u0631\u0631\u0632"),
   (0xFEB0, 1, "\u0632\u0633\u0633\u0633\u0633\u0634\u0634\u0634\u0634\u0635\u0635\u0635"),
   (0xFEBC, 1, "\u0635\u0636\u0636\u0636\u0636\u0637\u0637\u0637\u0637\u0638\u0638\u0638"),
   (0xFEC8, 1, "\u0638\u0639\u0639\u0639\u0639\u063a\u063a\u063a\u063a\u0641\u0641\u0641"),
   (0xFED4, 1, "\u0641\u0642\u0642\u0642\u0642\u0643\u0643\u0643\u0643\u0644\u0644\u0644"),
   (0xFEE0, 1, "\u0644\u0645\u0645\u0645\u0645\u0646\u0646\u0646\u0646\u0647\u0647\u0647"),
   (0xFEEC, 1, "\u0647\u0648\u0648\u0649\u0649\u064a\u064a\u064a\u064a"),
   (0xFF01, 1, "!\"#$%&'()*+,-./0123456789:;<=>?@abcdefghijklmnopqrstuvwxyz[\\]^_\x60abc"),
   (0xFF44, 1, "defghijklmnopqrstuvwxyz\x7b|\x7d~⦅⦆.「」、・ヲァィゥェォャュョッーアイウ"),
   (0xFF74, 1, "エオカキクケコサシスセソタチツテトナニヌネノハヒフヘホマミムメモヤユヨラ"),
   (0xFF98, 1, "リルレロワン\u3099\u309a"),
   (0xFFA1, 1, "ᄀᄁᆪᄂᆬᆭᄃᄄᄅᆰᆱᆲᆳᆴᆵᄚᄆᄇᄈᄡᄉᄊᄋᄌᄍᄎᄏᄐᄑᄒ"), (0xFFC2, 1, "ᅡᅢᅣᅤᅥᅦ"),
   (0xFFCA, 1, "ᅧᅨᅩᅪᅫᅬ"), (0xFFD2, 1, "ᅭᅮᅯᅰᅱᅲ"), (0xFFDA, 1, "ᅳᅴᅵ"), (0xFFE0, 1, "¢£¬"),
   (0xFFE4, 1, "¦¥₩"), (0xFFE8, 1, "│←↑→↓■○"),
   (0x10400, 1, "𐐨𐐩𐐪𐐫𐐬𐐭𐐮𐐯𐐰𐐱𐐲𐐳𐐴𐐵𐐶𐐷𐐸𐐹𐐺𐐻𐐼𐐽𐐾𐐿𐑀𐑁𐑂𐑃𐑄𐑅𐑆𐑇𐑈𐑉𐑊𐑋𐑌𐑍𐑎𐑏"),
   (0x104B0, 1, "𐓘𐓙𐓚𐓛𐓜𐓝𐓞𐓟𐓠𐓡𐓢𐓣𐓤𐓥𐓦𐓧𐓨𐓩𐓪𐓫𐓬𐓭𐓮𐓯𐓰𐓱𐓲𐓳𐓴𐓵𐓶𐓷𐓸𐓹𐓺𐓻"), (0x10570, 1, "𐖗𐖘𐖙𐖚𐖛𐖜𐖝𐖞𐖟𐖠𐖡"),
   (0x1057C, 1, "𐖣𐖤𐖥𐖦𐖧𐖨𐖩𐖪𐖫𐖬𐖭𐖮𐖯𐖰𐖱"), (0x1058C, 1, "𐖳𐖴𐖵𐖶𐖷𐖸𐖹"), (0x10594, 1, "𐖻𐖼"),
   (0x10781, 1, "ːˑæʙɓ"), (0x10787, 1, "ʣꭦʥʤɖɗᶑɘɞʩɤɢɠʛħʜɧʄʪʫɬ𝼄ꞎɮ𝼅ʎ𝼆øɶɷqɺ𝼈ɽɾʀʨʦꭧʧʈⱱ"),
   (0x107B2, 1, "ʏʡʢʘǀǁǂ𝼊𝼞"), (0x10C80, 1, "𐳀𐳁𐳂𐳃𐳄𐳅𐳆𐳇𐳈𐳉𐳊𐳋𐳌𐳍𐳎𐳏𐳐𐳑𐳒𐳓𐳔𐳕𐳖𐳗𐳘𐳙𐳚𐳛𐳜𐳝𐳞𐳟𐳠𐳡𐳢𐳣𐳤𐳥𐳦𐳧𐳨𐳩𐳪𐳫𐳬𐳭𐳮𐳯𐳰𐳱𐳲"),
   (0x10D50, 1, "𐵰𐵱𐵲𐵳𐵴𐵵𐵶𐵷𐵸𐵹𐵺𐵻𐵼𐵽𐵾𐵿𐶀𐶁𐶂𐶃𐶄𐶅"),
   (0x118A0, 1, "𑣀𑣁𑣂𑣃𑣄𑣅𑣆𑣇𑣈𑣉𑣊𑣋𑣌𑣍𑣎𑣏𑣐𑣑𑣒𑣓𑣔𑣕𑣖𑣗𑣘𑣙𑣚𑣛𑣜𑣝𑣞𑣟"),
   (0x16E40, 1, "𖹠𖹡𖹢𖹣𖹤𖹥𖹦𖹧𖹨𖹩𖹪𖹫𖹬𖹭𖹮𖹯𖹰𖹱𖹲𖹳𖹴𖹵𖹶𖹷𖹸𖹹𖹺𖹻𖹼𖹽𖹾𖹿"),
   (0x16EA0, 1, "𖺻𖺼𖺽𖺾𖺿𖻀𖻁𖻂𖻃𖻄𖻅𖻆𖻇𖻈𖻉𖻊𖻋𖻌𖻍𖻎𖻏𖻐𖻑𖻒𖻓"),
   (0x1CCD6, 1, "abcdefghijklmnopqrstuvwxyz0123456789"),
   (0x1D400, 1, "abcdefghijklmnopqrstuvwxyzabcdefghijklmnopqrstuvwxyzabcdefghijklmnopqrst"),
   (0x1D448, 1, "uvwxyzabcdefg"),
   (0x1D456, 1, "ijklmnopqrstuvwxyzabcdefghijklmnopqrstuvwxyzabcdefghijklmnopqrstuvwxyza"),
   (0x1D49E, 1, "cd"), (0x1D4A2, 1, "g"), (0x1D4A5, 1, "jk"), (0x1D4A9, 1, "nopq"),
   (0x1D4AE, 1, "stuvwxyzabcd"), (0x1D4BB, 2, "fh"), (0x1D4BE, 1, "ijklmn"),
   (0x1D4C5, 1, "pqrstuvwxyzabcdefghijklmnopqrstuvwxyzabcdefghijklmnopqrstuvwxyzab"),
   (0x1D507, 1, "defg"), (0x1D50D, 1, "jklmnopq"), (0x1D516, 1, "stuvwxy"),
   (0x1D51E, 1, "abcdefghijklmnopqrstuvwxyzab"), (0x1D53B, 1, "defg"), (0x1D540, 1, "ijklm"),
   (0x1D546, 1, "o"), (0x1D54A, 1, "stuvwxy"),
   (0x1D552, 1, "abcdefghijklmnopqrstuvwxyzabcdefghijklmnopqrstuvwxyzabcdefghijklmnopqrst"),
   (0x1D59A, 1, "uvwxyzabcdefghijklmnopqrstuvwxyzabcdefghijklmnopqrstuvwxyzabcdefghijklmn"),
   (0x1D5E2, 1, "opqrstuvwxyzabcdefghijklmnopqrstuvwxyzabcdefghijklmnopqrstuvwxyzabcdefgh"),
   (0x1D62A, 1, "ijklmnopqrstuvwxyzabcdefghijklmnopqrstuvwxyzabcdefghijklmnopqrstuvwxyzab"),
   (0x1D672, 1, "cdefghijklmnopqrstuvwxyzabcdefghijklmnopqrstuvwxyzıȷ"),
   (0x1D6A8, 1, "αβγδεζηθικλμνξοπρθστυφχψω∇αβγδεζηθικλμνξοπρσστυφχψω∂εθκφρπαβγδεζηθικλμνξ"),
   (0x1D6F0, 1, "οπρθστυφχψω∇αβγδεζηθικλμνξοπρσστυφχψω∂εθκφρπαβγδεζηθικλμνξοπρθστυφχψω∇αβ"),
   (0x1D738, 1, "γδεζηθικλμνξοπρσστυφχψω∂εθκφρπαβγδεζηθικλμνξοπρθστυφχψω∇αβγδεζηθικλμνξοπ"),
   (0x1D780, 1, "ρσστυφχψω∂εθκφρπαβγδεζηθικλμνξοπρθστυφχψω∇αβγδεζηθικλμνξοπρσστυφχψω∂εθκφ"),
   (0x1D7C8, 1, "ρπϝϝ"), (0x1D7CE, 1, "01234567890123456789012345678901234567890123456789"),
   (0x1E030, 1, "абвгдежзиклмопрстуфхцчшыэюꚉәіјөүӏабвгдежзиклопсуфхцчшъыґіѕџҫꙑұ"),
   (0x1E900, 1, "𞤢𞤣𞤤𞤥𞤦𞤧𞤨𞤩𞤪𞤫𞤬𞤭𞤮𞤯𞤰𞤱𞤲𞤳𞤴𞤵𞤶𞤷𞤸𞤹𞤺𞤻𞤼𞤽𞤾𞤿𞥀𞥁𞥂𞥃"), (0x1EE00, 1, "\u0627\u0628\u062c\u062f"),
   (0x1EE05, 1, "\u0648\u0632\u062d\u0637\u064a\u0643\u0644\u0645\u0646\u0633\u0639\u0641"),
   (0x1EE11, 1, "\u0635\u0642\u0631\u0634\u062a\u062b\u062e\u0630\u0636\u0638\u063a\u066e"),
   (0x1EE1D, 1, "\u06ba\u06a1\u066f"), (0x1EE21, 1, "\u0628\u062c"), (0x1EE24, 1, "\u0647"),
   (0x1EE27, 2, "\u062d\u064a"),
   (0x1EE2A, 1, "\u0643\u0644\u0645\u0646\u0633\u0639\u0641\u0635\u0642"),
   (0x1EE34, 1, "\u0634\u062a\u062b\u062e"), (0x1EE39, 2, "\u0636\u063a"), (0x1EE42, 1, "\u062c"),
   (0x1EE47, 2, "\u062d\u064a\u0644\u0646"), (0x1EE4E, 1, "\u0633\u0639"),
   (0x1EE51, 1, "\u0635\u0642"), (0x1EE54, 1, "\u0634"),
   (0x1EE57, 2, "\u062e\u0636\u063a\u06ba\u066f\u0628"), (0x1EE62, 2, "\u062c\u0647"),
   (0x1EE67, 1, "\u062d\u0637\u064a\u0643"),
   (0x1EE6C, 1, "\u0645\u0646\u0633\u0639\u0641\u0635\u0642"),
   (0x1EE74, 1, "\u0634\u062a\u062b\u062e"), (0x1EE79, 1, "\u0636\u0638\u063a\u066e"),
   (0x1EE7E, 2, "\u06a1\u0627"),
   (0x1EE81, 1, "\u0628\u062c\u062f\u0647\u0648\u0632\u062d\u0637\u064a"),
   (0x1EE8B, 1, "\u0644\u0645\u0646\u0633\u0639\u0641\u0635\u0642\u0631\u0634\u062a\u062b"),
   (0x1EE97, 1, "\u062e\u0630\u0636\u0638\u063a"), (0x1EEA1, 1, "\u0628\u062c\u062f"),
   (0x1EEA5, 1, "\u0648\u0632\u062d\u0637\u064a"),
   (0x1EEAB, 1, "\u0644\u0645\u0646\u0633\u0639\u0641\u0635\u0642\u0631\u0634\u062a\u062b"),
   (0x1EEB7, 1, "\u062e\u0630\u0636\u0638\u063a"), (0x1F12B, 1, "cr"),
   (0x1F130, 1, "abcdefghijklmnopqrstuvwxyz"), (0x1F202, 1, "サ"),
   (0x1F210, 1, "手字双デ二多解天交映無料前後再新初終生販声吹演投捕一三遊左中右指走打禁空"),
   (0x1F234, 1, "合満有月申割営配"), (0x1F250, 1, "得可"), (0x1FBF0, 1, "0123456789"),
   (0x2F800, 1, "丽丸乁𠄢你侮侻倂偺備僧像㒞𠘺免兔兤具𠔜㒹內再𠕋冗冤仌冬况𩇟凵刃㓟刻剆割剷"),
   (0x2F824, 1, "㔕勇勉勤勺包匆北卉卑博即卽卿卿卿𠨬灰及叟𠭣叫叱吆咞吸呈周咢哶唐啓啣善善喙"),
   (0x2F848, 1, "喫喳嗂圖嘆圗噑噴切壮城埴堍型堲報墬𡓤売壷夆多夢奢𡚨𡛪姬娛娧姘婦㛮㛼嬈嬾嬾"),
   (0x2F86C, 1, "𡧈寃寘寧寳𡬘寿将当尢㞁屠屮峀岍𡷤嵃𡷦嵮嵫嵼巡巢㠯巽帨帽幩㡢𢆃㡼庰庳庶廊𪎒"),
   (0x2F890, 1, "廾𢌱𢌱舁弢弢㣇𣊸𦇚形彫㣣徚忍志忹悁㤺㤜悔𢛔惇慈慌慎慌慺憎憲憤憯懞懲懶成戛"),
   (0x2F8B4, 1, "扝抱拔捐𢬌挽拼捨掃揤𢯱搢揅掩㨮摩摾撝摷㩬敏敬𣀊旣書晉㬙暑㬈㫤冒冕最暜肭䏙"),
   (0x2F8D8, 1, "朗望朡杞杓𣏃㭉柺枅桒梅𣑭梎栟椔㮝楂榣槪檨𣚣櫛㰘次𣢧歔㱎歲殟殺殻𣪍𡴋𣫺汎𣲼"),
   (0x2F8FC, 1, "沿泍汧洖派海流浩浸涅𣴞洴港湮㴳滋滇𣻑淹潮𣽞𣾎濆瀹瀞瀛㶖灊災灷炭𠔥煅𤉣熜𤎫"),
   (0x2F920, 1, "爨爵牐𤘈犀犕𤜵𤠔獺王㺬玥㺸㺸瑇瑜瑱璅瓊㼛甤𤰶甾𤲒異𢆟瘐𤾡𤾸𥁄㿼䀈直𥃳𥃲𥄙"),
   (0x2F944, 1, "𥄳眞真真睊䀹瞋䁆䂖𥐝硎碌磌䃣𥘦祖𥚚𥛅福秫䄯穀穊穏𥥼𥪧𥪧竮䈂𥮫篆築䈧𥲀糒䊠"),
   (0x2F968, 1, "糨糣紀𥾆絣䌁緇縂繅䌴𦈨𦉇䍙𦋙罺𦌾羕翺者𦓚𦔣聠𦖨聰𣍟䏕育脃䐋脾媵𦞧𦞵𣎓𣎜舁"),
   (0x2F98C, 1, "舄辞䑫芑芋芝劳花芳芽苦𦬼若茝荣莭茣莽菧著荓菊菌菜𦰶𦵫𦳕䔫蓱蓳蔖𧏊蕤𦼬䕝䕡"),
   (0x2F9B0, 1, "𦾱𧃒䕫虐虜虧虩蚩蚈蜎蛢蝹蜨蝫螆䗗蟡蠁䗹衠衣𧙧裗裞䘵裺㒻𧢮𧥦䚾䛇誠諭變豕𧲨"),
   (0x2F9D4, 1, "貫賁贛起𧼯𠠄跋趼跰𠣞軔輸𨗒𨗭邔郱鄑𨜮鄛鈸鋗鋘鉼鏹鐕𨯺開䦕閷𨵷䧦雃嶲霣𩅅𩈚"),
   (0x2F9F8, 1, "䩮䩶韠𩐊䪲𩒖頋頋頩𩖶飢䬳餩馧駂駾䯎𩬰鬒鱀鳽䳎䳭鵧𪃎䳸𪄅𪈎𪊑麻䵖黹黾鼅鼏鼖"),
   (0x2FA1C, 1, "鼻𪘀")]

/-- Code points that stand for more than one character: the first of a row, and what its code points
stand for. -/
def textRows : List (Nat × List String) :=
  [(0xA8, [" \u0308"]), (0xAF, [" \u0304"]), (0xB4, [" \u0301"]), (0xB8, [" \u0327"]),
   (0xBC, ["1⁄4", "1⁄2", "3⁄4"]), (0x130, ["i\u0307"]), (0x132, ["ij", "ij"]),
   (0x13F, ["l·", "l·"]), (0x149, ["ʼn"]),
   (0x1C4, ["dž", "dž", "dž", "lj", "lj", "lj", "nj", "nj", "nj"]), (0x1F1, ["dz", "dz", "dz"]),
   (0x2D8, [" \u0306", " \u0307", " \u030a", " \u0328", " \u0303", " \u030b"]),
   (0x344, ["\u0308\u0301"]), (0x37A, [" ι"]), (0x384, [" \u0301", " \u0308\u0301"]),
   (0x587, ["եւ"]), (0x675, ["\u0627\u0674", "\u0648\u0674", "\u06c7\u0674", "\u064a\u0674"]),
   (0x958, ["क\u093c", "ख\u093c", "ग\u093c", "ज\u093c", "ड\u093c", "ढ\u093c", "फ\u093c",
    "य\u093c"]),
   (0x9DC, ["ড\u09bc", "ঢ\u09bc"]), (0x9DF, ["য\u09bc"]), (0xA33, ["ਲ\u0a3c"]),
   (0xA36, ["ਸ\u0a3c"]), (0xA59, ["ਖ\u0a3c", "ਗ\u0a3c", "ਜ\u0a3c"]), (0xA5E, ["ਫ\u0a3c"]),
   (0xB5C, ["ଡ\u0b3c", "ଢ\u0b3c"]), (0xE33, ["\u0e4dา"]), (0xEB3, ["\u0ecdາ"]),
   (0xEDC, ["ຫນ", "ຫມ"]), (0xF43, ["ག\u0fb7"]), (0xF4D, ["ཌ\u0fb7"]), (0xF52, ["ད\u0fb7"]),
   (0xF57, ["བ\u0fb7"]), (0xF5C, ["ཛ\u0fb7"]), (0xF69, ["ཀ\u0fb5"]), (0xF73, ["\u0f71\u0f72"]),
   (0xF75, ["\u0f71\u0f74", "\u0fb2\u0f80", "\u0fb2\u0f71\u0f80", "\u0fb3\u0f80",
    "\u0fb3\u0f71\u0f80"]),
   (0xF81, ["\u0f71\u0f80"]), (0xF93, ["\u0f92\u0fb7"]), (0xF9D, ["\u0f9c\u0fb7"]),
   (0xFA2, ["\u0fa1\u0fb7"]), (0xFA7, ["\u0fa6\u0fb7"]), (0xFAC, ["\u0fab\u0fb7"]),
   (0xFB9, ["\u0f90\u0fb5"]), (0x1E9A, ["aʾ"]),
   (0x1F80, ["ἀι", "ἁι", "ἂι", "ἃι", "ἄι", "ἅι", "ἆι", "ἇι", "ἀι", "ἁι", "ἂι", "ἃι", "ἄι", "ἅι",
    "ἆι", "ἇι"]),
   (0x1F90, ["ἠι", "ἡι", "ἢι", "ἣι", "ἤι", "ἥι", "ἦι", "ἧι", "ἠι", "ἡι", "ἢι", "ἣι", "ἤι", "ἥι",
    "ἦι", "ἧι"]),
   (0x1FA0, ["ὠι", "ὡι", "ὢι", "ὣι", "ὤι", "ὥι", "ὦι", "ὧι", "ὠι", "ὡι", "ὢι", "ὣι", "ὤι", "ὥι",
    "ὦι", "ὧι"]),
   (0x1FB2, ["ὰι", "αι", "άι"]), (0x1FB7, ["ᾶι"]), (0x1FBC, ["αι", " \u0313"]),
   (0x1FBF, [" \u0313", " \u0342", " \u0308\u0342", "ὴι", "ηι", "ήι"]), (0x1FC7, ["ῆι"]),
   (0x1FCC, ["ηι", " \u0313\u0300", " \u0313\u0301", " \u0313\u0342"]),
   (0x1FDD, [" \u0314\u0300", " \u0314\u0301", " \u0314\u0342"]),
   (0x1FED, [" \u0308\u0300", " \u0308\u0301"]), (0x1FF2, ["ὼι", "ωι", "ώι"]), (0x1FF7, ["ῶι"]),
   (0x1FFC, ["ωι", " \u0301", " \u0314"]), (0x2017, [" \u0333"]), (0x2033, ["′′", "′′′"]),
   (0x2036, ["‵‵", "‵‵‵"]), (0x203C, ["!!"]), (0x203E, [" \u0305"]), (0x2047, ["??", "?!", "!?"]),
   (0x2057, ["′′′′"]), (0x20A8, ["rs"]), (0x2100, ["a/c", "a/s"]), (0x2103, ["°c"]),
   (0x2105, ["c/o", "c/u"]), (0x2109, ["°f"]), (0x2116, ["no"]), (0x2120, ["sm", "tel", "tm"]),
   (0x213B, ["fax"]),
   (0x2150, ["1⁄7", "1⁄9", "1⁄10", "1⁄3", "2⁄3", "1⁄5", "2⁄5", "3⁄5", "4⁄5", "1⁄6", "5⁄6", "1⁄8",
    "3⁄8", "5⁄8", "7⁄8", "1⁄"]),
   (0x2161, ["ii", "iii", "iv"]), (0x2165, ["vi", "vii", "viii", "ix"]), (0x216A, ["xi", "xii"]),
   (0x2171, ["ii", "iii", "iv"]), (0x2175, ["vi", "vii", "viii", "ix"]), (0x217A, ["xi", "xii"]),
   (0x2189, ["0⁄3"]), (0x222C, ["∫∫", "∫∫∫"]), (0x222F, ["∮∮", "∮∮∮"]),
   (0x2469, ["10", "11", "12", "13", "14", "15", "16", "17", "18", "19", "20", "(1)", "(2)",
    "(3)", "(4)", "(5)"]),
   (0x2479, ["(6)", "(7)", "(8)", "(9)", "(10)", "(11)", "(12)", "(13)", "(14)", "(15)", "(16)",
    "(17)", "(18)", "(19)", "(20)"]),
   (0x249C, ["(a)", "(b)", "(c)", "(d)", "(e)", "(f)", "(g)", "(h)", "(i)", "(j)", "(k)", "(l)",
    "(m)", "(n)", "(o)", "(p)"]),
   (0x24AC, ["(q)", "(r)", "(s)", "(t)", "(u)", "(v)", "(w)", "(x)", "(y)", "(z)"]),
   (0x2A0C, ["∫∫∫∫"]), (0x2A74, ["::=", "==", "==="]), (0x2ADC, ["⫝\u0338"]),
   (0x309B, [" \u3099", " \u309a"]), (0x309F, ["より"]), (0x30FF, ["コト"]),
   (0x3200, ["(ᄀ)", "(ᄂ)", "(ᄃ)", "(ᄅ)", "(ᄆ)", "(ᄇ)", "(ᄉ)", "(ᄋ)", "(ᄌ)", "(ᄎ)",
    "(ᄏ)", "(ᄐ)", "(ᄑ)", "(ᄒ)", "(가)", "(나)"]),
   (0x3210, ["(다)", "(라)", "(마)", "(바)", "(사)", "(아)", "(자)", "(차)", "(카)", "(타)",
    "(파)", "(하)", "(주)", "(오전)", "(오후)"]),
   (0x3220, ["(一)", "(二)", "(三)", "(四)", "(五)", "(六)", "(七)", "(八)", "(九)", "(十)",
    "(月)", "(火)", "(水)", "(木)", "(金)", "(土)"]),
   (0x3230, ["(日)", "(株)", "(有)", "(社)", "(名)", "(特)", "(財)", "(祝)", "(労)", "(代)",
    "(呼)", "(学)", "(監)", "(企)", "(資)", "(協)"]),
   (0x3240, ["(祭)", "(休)", "(自)", "(至)"]),
   (0x3250, ["pte", "21", "22", "23", "24", "25", "26", "27", "28", "29", "30", "31", "32", "33",
    "34", "35"]),
   (0x327C, ["참고", "주의"]),
   (0x32B1, ["36", "37", "38", "39", "40", "41", "42", "43", "44", "45", "46", "47", "48", "49",
    "50", "1月"]),
   (0x32C1, ["2月", "3月", "4月", "5月", "6月", "7月", "8月", "9月", "10月", "11月", "12月",
    "hg", "erg", "ev", "ltd"]),
   (0x32FF, ["令和", "アパート", "アルファ", "アンペア", "アール", "イニング", "インチ",
    "ウォン", "エスクード", "エーカー", "オンス", "オーム", "カイリ", "カラット", "カロリー",
    "ガロン"]),
   (0x330F, ["ガンマ", "ギガ", "ギニー", "キュリー", "ギルダー", "キロ", "キログラム",
    "キロメートル", "キロワット", "グラム", "グラムトン", "クルゼイロ", "クローネ", "ケース",
    "コルナ", "コーポ"]),
   (0x331F, ["サイクル", "サンチーム", "シリング", "センチ", "セント", "ダース", "デシ", "ドル",
    "トン", "ナノ", "ノット", "ハイツ", "パーセント", "パーツ", "バーレル", "ピアストル"]),
   (0x332F, ["ピクル", "ピコ", "ビル", "ファラッド", "フィート", "ブッシェル", "フラン",
    "ヘクタール", "ペソ", "ペニヒ", "ヘルツ", "ペンス", "ページ", "ベータ", "ポイント",
    "ボルト"]),
   (0x333F, ["ホン", "ポンド", "ホール", "ホーン", "マイクロ", "マイル", "マッハ", "マルク",
    "マンション", "ミクロン", "ミリ", "ミリバール", "メガ", "メガトン", "メートル", "ヤード"]),
   (0x334F, ["ヤール", "ユアン", "リットル", "リラ", "ルピー", "ルーブル", "レム", "レントゲン",
    "ワット", "0点", "1点", "2点", "3点", "4点", "5点", "6点"]),
   (0x335F, ["7点", "8点", "9点", "10点", "11点", "12点", "13点", "14点", "15点", "16点", "17点",
    "18点", "19点", "20点", "21点", "22点"]),
   (0x336F, ["23点", "24点", "hpa", "da", "au", "bar", "ov", "pc", "dm", "dm2", "dm3", "iu",
    "平成", "昭和", "大正", "明治"]),
   (0x337F, ["株式会社", "pa", "na", "μa", "ma", "ka", "kb", "mb", "gb", "cal", "kcal", "pf",
    "nf", "μf", "μg", "mg"]),
   (0x338F, ["kg", "hz", "khz", "mhz", "ghz", "thz", "μl", "ml", "dl", "kl", "fm", "nm", "μm",
    "mm", "cm", "km"]),
   (0x339F, ["mm2", "cm2", "m2", "km2", "mm3", "cm3", "m3", "km3", "m∕s", "m∕s2", "pa", "kpa",
    "mpa", "gpa", "rad", "rad∕s"]),
   (0x33AF, ["rad∕s2", "ps", "ns", "μs", "ms", "pv", "nv", "μv", "mv", "kv", "mv", "pw", "nw",
    "μw", "mw", "kw"]),
   (0x33BF, ["mw", "kω", "mω"]), (0x33C3, ["bq", "cc", "cd", "c∕kg"]),
   (0x33C8, ["db", "gy", "ha", "hp", "in", "kk", "km", "kt", "lm", "ln", "log", "lx", "mb",
    "mil", "mol", "ph"]),
   (0x33D9, ["ppm", "pr", "sr", "sv", "wb", "v∕m", "a∕m", "1日", "2日", "3日", "4日", "5日",
    "6日", "7日", "8日", "9日"]),
   (0x33E9, ["10日", "11日", "12日", "13日", "14日", "15日", "16日", "17日", "18日", "19日",
    "20日", "21日", "22日", "23日", "24日", "25日"]),
   (0x33F9, ["26日", "27日", "28日", "29日", "30日", "31日", "gal"]),
   (0xFB00, ["ff", "fi", "fl", "ffi", "ffl", "st", "st"]), (0xFB13, ["մն", "մե", "մի", "վն", "մխ"]),
   (0xFB1D, ["\u05d9\u05b4"]), (0xFB1F, ["\u05f2\u05b7"]),
   (0xFB2A, ["\u05e9\u05c1", "\u05e9\u05c2", "\u05e9\u05bc\u05c1", "\u05e9\u05bc\u05c2",
    "\u05d0\u05b7", "\u05d0\u05b8", "\u05d0\u05bc", "\u05d1\u05bc", "\u05d2\u05bc",
    "\u05d3\u05bc", "\u05d4\u05bc", "\u05d5\u05bc", "\u05d6\u05bc"]),
   (0xFB38, ["\u05d8\u05bc", "\u05d9\u05bc", "\u05da\u05bc", "\u05db\u05bc", "\u05dc\u05bc"]),
   (0xFB3E, ["\u05de\u05bc"]), (0xFB40, ["\u05e0\u05bc", "\u05e1\u05bc"]),
   (0xFB43, ["\u05e3\u05bc", "\u05e4\u05bc"]),
   (0xFB46, ["\u05e6\u05bc", "\u05e7\u05bc", "\u05e8\u05bc", "\u05e9\u05bc", "\u05ea\u05bc",
    "\u05d5\u05b9", "\u05d1\u05bf", "\u05db\u05bf", "\u05e4\u05bf", "\u05d0\u05dc"]),
   (0xFBDD, ["\u06c7\u0674"]),
   (0xFBEA, ["\u0626\u0627", "\u0626\u0627", "\u0626\u06d5", "\u0626\u06d5", "\u0626\u0648",
    "\u0626\u0648", "\u0626\u06c7", "\u0626\u06c7", "\u0626\u06c6", "\u0626\u06c6",
    "\u0626\u06c8", "\u0626\u06c8", "\u0626\u06d0", "\u0626\u06d0", "\u0626\u06d0",
    "\u0626\u0649"]),
   (0xFBFA, ["\u0626\u0649", "\u0626\u0649"]),
   (0xFC00, ["\u0626\u062c", "\u0626\u062d", "\u0626\u0645", "\u0626\u0649", "\u0626\u064a",
    "\u0628\u062c", "\u0628\u062d", "\u0628\u062e", "\u0628\u0645", "\u0628\u0649",
    "\u0628\u064a", "\u062a\u062c", "\u062a\u062d", "\u062a\u062e", "\u062a\u0645",
    "\u062a\u0649"]),
   (0xFC10, ["\u062a\u064a", "\u062b\u062c", "\u062b\u0645", "\u062b\u0649", "\u062b\u064a",
    "\u062c\u062d", "\u062c\u0645", "\u062d\u062c", "\u062d\u0645", "\u062e\u062c",
    "\u062e\u062d", "\u062e\u0645", "\u0633\u062c", "\u0633\u062d", "\u0633\u062e",
    "\u0633\u0645"]),
   (0xFC20, ["\u0635\u062d", "\u0635\u0645", "\u0636\u062c", "\u0636\u062d", "\u0636\u062e",
    "\u0636\u0645", "\u0637\u062d", "\u0637\u0645", "\u0638\u0645", "\u0639\u062c",
    "\u0639\u0645", "\u063a\u062c", "\u063a\u0645", "\u0641\u062c", "\u0641\u062d",
    "\u0641\u062e"]),
   (0xFC30, ["\u0641\u0645", "\u0641\u0649", "\u0641\u064a", "\u0642\u062d", "\u0642\u0645",
    "\u0642\u0649", "\u0642\u064a", "\u0643\u0627", "\u0643\u062c", "\u0643\u062d",
    "\u0643\u062e", "\u0643\u0644", "\u0643\u0645", "\u0643\u0649", "\u0643\u064a",
    "\u0644\u062c"]),
   (0xFC40, ["\u0644\u062d", "\u0644\u062e", "\u0644\u0645", "\u0644\u0649", "\u0644\u064a",
    "\u0645\u062c", "\u0645\u062d", "\u0645\u062e", "\u0645\u0645", "\u0645\u0649",
    "\u0645\u064a", "\u0646\u062c", "\u0646\u062d", "\u0646\u062e", "\u0646\u0645",
    "\u0646\u0649"]),
   (0xFC50, ["\u0646\u064a", "\u0647\u062c", "\u0647\u0645", "\u0647\u0649", "\u0647\u064a",
    "\u064a\u062c", "\u064a\u062d", "\u064a\u062e", "\u064a\u0645", "\u064a\u0649",
    "\u064a\u064a", "\u0630\u0670", "\u0631\u0670", "\u0649\u0670", " \u064c\u0651",
    " \u064d\u0651"]),
   (0xFC60, [" \u064e\u0651", " \u064f\u0651", " \u0650\u0651", " \u0651\u0670", "\u0626\u0631",
    "\u0626\u0632", "\u0626\u0645", "\u0626\u0646", "\u0626\u0649", "\u0626\u064a",
    "\u0628\u0631", "\u0628\u0632", "\u0628\u0645", "\u0628\u0646", "\u0628\u0649",
    "\u0628\u064a"]),
   (0xFC70, ["\u062a\u0631", "\u062a\u0632", "\u062a\u0645", "\u062a\u0646", "\u062a\u0649",
    "\u062a\u064a", "\u062b\u0631", "\u062b\u0632", "\u062b\u0645", "\u062b\u0646",
    "\u062b\u0649", "\u062b\u064a", "\u0641\u0649", "\u0641\u064a", "\u0642\u0649",
    "\u0642\u064a"]),
   (0xFC80, ["\u0643\u0627", "\u0643\u0644", "\u0643\u0645", "\u0643\u0649", "\u0643\u064a",
    "\u0644\u0645", "\u0644\u0649", "\u0644\u064a", "\u0645\u0627", "\u0645\u0645",
    "\u0646\u0631", "\u0646\u0632", "\u0646\u0645", "\u0646\u0646", "\u0646\u0649",
    "\u0646\u064a"]),
   (0xFC90, ["\u0649\u0670", "\u064a\u0631", "\u064a\u0632", "\u064a\u0645", "\u064a\u0646",
    "\u064a\u0649", "\u064a\u064a", "\u0626\u062c", "\u0626\u062d", "\u0626\u062e",
    "\u0626\u0645", "\u0626\u0647", "\u0628\u062c", "\u0628\u062d", "\u0628\u062e",
    "\u0628\u0645"]),
   (0xFCA0, ["\u0628\u0647", "\u062a\u062c", "\u062a\u062d", "\u062a\u062e", "\u062a\u0645",
    "\u062a\u0647", "\u062b\u0645", "\u062c\u062d", "\u062c\u0645", "\u062d\u062c",
    "\u062d\u0645", "\u062e\u062c", "\u062e\u0645", "\u0633\u062c", "\u0633\u062d",
    "\u0633\u062e"]),
   (0xFCB0, ["\u0633\u0645", "\u0635\u062d", "\u0635\u062e", "\u0635\u0645", "\u0636\u062c",
    "\u0636\u062d", "\u0636\u062e", "\u0636\u0645", "\u0637\u062d", "\u0638\u0645",
    "\u0639\u062c", "\u0639\u0645", "\u063a\u062c", "\u063a\u0645", "\u0641\u062c",
    "\u0641\u062d"]),
   (0xFCC0, ["\u0641\u062e", "\u0641\u0645", "\u0642\u062d", "\u0642\u0645", "\u0643\u062c",
    "\u0643\u062d", "\u0643\u062e", "\u0643\u0644", "\u0643\u0645", "\u0644\u062c",
    "\u0644\u062d", "\u0644\u062e", "\u0644\u0645", "\u0644\u0647", "\u0645\u062c",
    "\u0645\u062d"]),
   (0xFCD0, ["\u0645\u062e", "\u0645\u0645", "\u0646\u062c", "\u0646\u062d", "\u0646\u062e",
    "\u0646\u0645", "\u0646\u0647", "\u0647\u062c", "\u0647\u0645", "\u0647\u0670",
    "\u064a\u062c", "\u064a\u062d", "\u064a\u062e", "\u064a\u0645", "\u064a\u0647",
    "\u0626\u0645"]),
   (0xFCE0, ["\u0626\u0647", "\u0628\u0645", "\u0628\u0647", "\u062a\u0645", "\u062a\u0647",
    "\u062b\u0645", "\u062b\u0647", "\u0633\u0645", "\u0633\u0647", "\u0634\u0645",
    "\u0634\u0647", "\u0643\u0644", "\u0643\u0645", "\u0644\u0645", "\u0646\u0645",
    "\u0646\u0647"]),
   (0xFCF0, ["\u064a\u0645", "\u064a\u0647", "\u0640\u064e\u0651", "\u0640\u064f\u0651",
    "\u0640\u0650\u0651", "\u0637\u0649", "\u0637\u064a", "\u0639\u0649", "\u0639\u064a",
    "\u063a\u0649", "\u063a\u064a", "\u0633\u0649", "\u0633\u064a", "\u0634\u0649",
    "\u0634\u064a", "\u062d\u0649"]),
   (0xFD00, ["\u062d\u064a", "\u062c\u0649", "\u062c\u064a", "\u062e\u0649", "\u062e\u064a",
    "\u0635\u0649", "\u0635\u064a", "\u0636\u0649", "\u0636\u064a", "\u0634\u062c",
    "\u0634\u062d", "\u0634\u062e", "\u0634\u0645", "\u0634\u0631", "\u0633\u0631",
    "\u0635\u0631"]),
   (0xFD10, ["\u0636\u0631", "\u0637\u0649", "\u0637\u064a", "\u0639\u0649", "\u0639\u064a",
    "\u063a\u0649", "\u063a\u064a", "\u0633\u0649", "\u0633\u064a", "\u0634\u0649",
    "\u0634\u064a", "\u062d\u0649", "\u062d\u064a", "\u062c\u0649", "\u062c\u064a",
    "\u062e\u0649"]),
   (0xFD20, ["\u062e\u064a", "\u0635\u0649", "\u0635\u064a", "\u0636\u0649", "\u0636\u064a",
    "\u0634\u062c", "\u0634\u062d", "\u0634\u062e", "\u0634\u0645", "\u0634\u0631",
    "\u0633\u0631", "\u0635\u0631", "\u0636\u0631", "\u0634\u062c", "\u0634\u062d",
    "\u0634\u062e"]),
   (0xFD30, ["\u0634\u0645", "\u0633\u0647", "\u0634\u0647", "\u0637\u0645", "\u0633\u062c",
    "\u0633\u062d", "\u0633\u062e", "\u0634\u062c", "\u0634\u062d", "\u0634\u062e",
    "\u0637\u0645", "\u0638\u0645", "\u0627\u064b", "\u0627\u064b"]),
   (0xFD50, ["\u062a\u062c\u0645", "\u062a\u062d\u062c", "\u062a\u062d\u062c",
    "\u062a\u062d\u0645", "\u062a\u062e\u0645", "\u062a\u0645\u062c", "\u062a\u0645\u062d",
    "\u062a\u0645\u062e", "\u062c\u0645\u062d", "\u062c\u0645\u062d", "\u062d\u0645\u064a",
    "\u062d\u0645\u0649", "\u0633\u062d\u062c", "\u0633\u062c\u062d", "\u0633\u062c\u0649",
    "\u0633\u0645\u062d"]),
   (0xFD60, ["\u0633\u0645\u062d", "\u0633\u0645\u062c", "\u0633\u0645\u0645",
    "\u0633\u0645\u0645", "\u0635\u062d\u062d", "\u0635\u062d\u062d", "\u0635\u0645\u0645",
    "\u0634\u062d\u0645", "\u0634\u062d\u0645", "\u0634\u062c\u064a", "\u0634\u0645\u062e",
    "\u0634\u0645\u062e", "\u0634\u0645\u0645", "\u0634\u0645\u0645", "\u0636\u062d\u0649",
    "\u0636\u062e\u0645"]),
   (0xFD70, ["\u0636\u062e\u0645", "\u0637\u0645\u062d", "\u0637\u0645\u062d",
    "\u0637\u0645\u0645", "\u0637\u0645\u064a", "\u0639\u062c\u0645", "\u0639\u0645\u0645",
    "\u0639\u0645\u0645", "\u0639\u0645\u0649", "\u063a\u0645\u0645", "\u063a\u0645\u064a",
    "\u063a\u0645\u0649", "\u0641\u062e\u0645", "\u0641\u062e\u0645", "\u0642\u0645\u062d",
    "\u0642\u0645\u0645"]),
   (0xFD80, ["\u0644\u062d\u0645", "\u0644\u062d\u064a", "\u0644\u062d\u0649",
    "\u0644\u062c\u062c", "\u0644\u062c\u062c", "\u0644\u062e\u0645", "\u0644\u062e\u0645",
    "\u0644\u0645\u062d", "\u0644\u0645\u062d", "\u0645\u062d\u062c", "\u0645\u062d\u0645",
    "\u0645\u062d\u064a", "\u0645\u062c\u062d", "\u0645\u062c\u0645", "\u0645\u062e\u062c",
    "\u0645\u062e\u0645"]),
   (0xFD92, ["\u0645\u062c\u062e", "\u0647\u0645\u062c", "\u0647\u0645\u0645",
    "\u0646\u062d\u0645", "\u0646\u062d\u0649", "\u0646\u062c\u0645", "\u0646\u062c\u0645",
    "\u0646\u062c\u0649", "\u0646\u0645\u064a", "\u0646\u0645\u0649", "\u064a\u0645\u0645",
    "\u064a\u0645\u0645", "\u0628\u062e\u064a", "\u062a\u062c\u064a", "\u062a\u062c\u0649",
    "\u062a\u062e\u064a"]),
   (0xFDA2, ["\u062a\u062e\u0649", "\u062a\u0645\u064a", "\u062a\u0645\u0649",
    "\u062c\u0645\u064a", "\u062c\u062d\u0649", "\u062c\u0645\u0649", "\u0633\u062e\u0649",
    "\u0635\u062d\u064a", "\u0634\u062d\u064a", "\u0636\u062d\u064a", "\u0644\u062c\u064a",
    "\u0644\u0645\u064a", "\u064a\u062d\u064a", "\u064a\u062c\u064a", "\u064a\u0645\u064a",
    "\u0645\u0645\u064a"]),
   (0xFDB2, ["\u0642\u0645\u064a", "\u0646\u062d\u064a", "\u0642\u0645\u062d",
    "\u0644\u062d\u0645", "\u0639\u0645\u064a", "\u0643\u0645\u064a", "\u0646\u062c\u062d",
    "\u0645\u062e\u064a", "\u0644\u062c\u0645", "\u0643\u0645\u0645", "\u0644\u062c\u0645",
    "\u0646\u062c\u062d", "\u062c\u062d\u064a", "\u062d\u062c\u064a", "\u0645\u062c\u064a",
    "\u0641\u0645\u064a"]),
   (0xFDC2, ["\u0628\u062d\u064a", "\u0643\u0645\u0645", "\u0639\u062c\u0645",
    "\u0635\u0645\u0645", "\u0633\u062e\u064a", "\u0646\u062c\u064a"]),
   (0xFDF0, ["\u0635\u0644\u06d2", "\u0642\u0644\u06d2", "\u0627\u0644\u0644\u0647",
    "\u0627\u0643\u0628\u0631", "\u0645\u062d\u0645\u062f", "\u0635\u0644\u0639\u0645",
    "\u0631\u0633\u0648\u0644", "\u0639\u0644\u064a\u0647", "\u0648\u0633\u0644\u0645",
    "\u0635\u0644\u0649",
    "\u0635\u0644\u0649 \u0627\u0644\u0644\u0647 \u0639\u0644\u064a\u0647 \u0648\u0633\u0644\u0645",
    "\u062c\u0644 \u062c\u0644\u0627\u0644\u0647", "\u0631\u06cc\u0627\u0644"]),
   (0xFE49, [" \u0305", " \u0305", " \u0305", " \u0305"]),
   (0xFE70, [" \u064b", "\u0640\u064b", " \u064c"]), (0xFE74, [" \u064d"]),
   (0xFE76, [" \u064e", "\u0640\u064e", " \u064f", "\u0640\u064f", " \u0650", "\u0640\u0650",
    " \u0651", "\u0640\u0651", " \u0652", "\u0640\u0652"]),
   (0xFEF5, ["\u0644\u0622", "\u0644\u0622", "\u0644\u0623", "\u0644\u0623", "\u0644\u0625",
    "\u0644\u0625", "\u0644\u0627", "\u0644\u0627"]),
   (0xFFE3, [" \u0304"]), (0x1D15E, ["𝅗𝅥", "𝅘𝅥", "𝅘𝅥𝅮", "𝅘𝅥𝅯", "𝅘𝅥𝅰", "𝅘𝅥𝅱", "𝅘𝅥𝅲"]),
   (0x1D1BB, ["𝆹𝅥", "𝆺𝅥", "𝆹𝅥𝅮", "𝆺𝅥𝅮", "𝆹𝅥𝅯", "𝆺𝅥𝅯"]),
   (0x1F101, ["0,", "1,", "2,", "3,", "4,", "5,", "6,", "7,", "8,", "9,"]),
   (0x1F110, ["(a)", "(b)", "(c)", "(d)", "(e)", "(f)", "(g)", "(h)", "(i)", "(j)", "(k)", "(l)",
    "(m)", "(n)", "(o)", "(p)"]),
   (0x1F120, ["(q)", "(r)", "(s)", "(t)", "(u)", "(v)", "(w)", "(x)", "(y)", "(z)", "〔s〕"]),
   (0x1F12D, ["cd", "wz"]), (0x1F14A, ["hv", "mv", "sd", "ss", "ppv", "wc"]),
   (0x1F16A, ["mc", "md", "mr"]), (0x1F190, ["dj"]), (0x1F200, ["ほか", "ココ"]),
   (0x1F240, ["〔本〕", "〔三〕", "〔二〕", "〔安〕", "〔点〕", "〔打〕", "〔盗〕", "〔勝〕",
    "〔敗〕"])]

/-- What a code point stands for by the rows of single characters. -/
def letter? (n : Nat) : List (Nat × Nat × String) → Option Char
  | [] => none
  | (first, step, letters) :: rest =>
    if n < first then none
    else if (n - first) % step = 0 then
      match letters.toList[(n - first) / step]? with
      | some c => some c
      | none => letter? n rest
    else letter? n rest

/-- What a code point stands for by the rows of texts. -/
def text? (n : Nat) : List (Nat × List String) → Option String
  | [] => none
  | (first, texts) :: rest =>
    if n < first then none
    else match texts[n - first]? with
      | some t => some t
      | none => text? n rest

/-- What a character stands for, if that is not itself. -/
def replacement? (c : Char) : Option (List Char) :=
  let n := c.toNat
  if n < 0x80 then if c.isUpper then some [c.toLower] else none
  else if Text.inRanges n ignoredRanges then some []
  else match letter? n letterRows with
    | some l => some [l]
    | none => (text? n textRows).map String.toList

end MultiCluster.Url.Domain
