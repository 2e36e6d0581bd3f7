import UrlHandoff.Url.Folding.Run

namespace UrlHandoff.Url

def eastAsianPassages : List FoldingPassage :=
  [⟨0x3002, "."⟩,
   ⟨0x3036, "〒"⟩,
   ⟨0x309F, "より"⟩,
   ⟨0x30FF, "コト"⟩,
   ⟨0x3131, "ᄀ ᄁ ᆪ ᄂ ᆬ ᆭ"⟩,
   ⟨0x3140, "ᄚ"⟩,
   ⟨0x3144, "ᄡ"⟩,
   ⟨0x3165, "ᄔ ᄕ ᇇ ᇈ ᇌ ᇎ ᇓ ᇗ ᇙ ᄜ ᇝ ᇟ ᄝ ᄞ ᄠ ᄢ ᄣ ᄧ ᄩ"⟩,
   ⟨0x317D, "ᄲ ᄶ ᅀ ᅇ ᅌ ᇱ ᇲ"⟩,
   ⟨0x3187, "ᆄ ᆅ ᆈ ᆑ ᆒ ᆔ ᆞ ᆡ"⟩,
   ⟨0x3192, "一 二 三 四 上 中 下 甲 乙 丙 丁 天 地 人"⟩,
   ⟨0x3200, "(ᄀ) (ᄂ) (ᄃ) (ᄅ) (ᄆ) (ᄇ) (ᄉ) (ᄋ) (ᄌ) (ᄎ) (ᄏ) (ᄐ) (ᄑ) (ᄒ) (가) (나)"⟩,
   ⟨0x3210, "(다) (라) (마) (바) (사) (아) (자) (차) (카) (타) (파) (하) (주) (오전) (오후)"⟩,
   ⟨0x3220, "(一) (二) (三) (四) (五) (六) (七) (八) (九) (十) (月) (火) (水) (木) (金) (土)"⟩,
   ⟨0x3230, "(日) (株) (有) (社) (名) (特) (財) (祝) (労) (代) (呼) (学) (監) (企) (資) (協)"⟩,
   ⟨0x3240, "(祭) (休) (自) (至) 問 幼 文 箏"⟩,
   ⟨0x3250, "pte 21 22 23 24 25 26 27 28 29 30 31 32 33 34 35 ᄀ ᄂ ᄃ"⟩,
   ⟨0x3266, "ᄉ ᄋ ᄌ"⟩,
   ⟨0x326E, "가 나 다 라 마 바 사 아 자 차 카 타 파 하 참고 주의 우"⟩,
   ⟨0x3280, "一 二 三 四 五 六 七 八 九 十 月 火 水 木 金 土 日 株 有 社 名 特 財 祝 労 秘 男 女"⟩,
   ⟨0x329C, "適 優 印 注 項 休 写 正 上 中 下 左 右 医 宗 学 監 企 資 協 夜 36 37 38 39 40 41 42"⟩,
   ⟨0x32B8, "43 44 45 46 47 48 49 50 1月 2月 3月 4月 5月 6月 7月 8月 9月 10月 11月 12月 hg erg"⟩,
   ⟨0x32CE, "ev ltd ア イ ウ エ オ カ キ ク ケ コ サ シ ス セ ソ タ チ ツ テ ト"⟩,
   ⟨0x32EA, "ヒ フ ヘ ホ"⟩,
   ⟨0x32F3, "ヤ ユ"⟩,
   ⟨0x32FF, "令和 アパート アルファ アンペア アール イニング インチ ウォン エスクード エーカー"⟩,
   ⟨0x3309, "オンス オーム カイリ カラット カロリー ガロン ガンマ ギガ ギニー キュリー ギルダー"⟩,
   ⟨0x3314, "キロ キログラム キロメートル キロワット グラム グラムトン クルゼイロ クローネ"⟩,
   ⟨0x331C, "ケース コルナ コーポ サイクル サンチーム シリング センチ セント ダース デシ ドル"⟩,
   ⟨0x3327, "トン ナノ ノット ハイツ パーセント パーツ バーレル ピアストル ピクル ピコ ビル"⟩,
   ⟨0x3332, "ファラッド フィート ブッシェル フラン ヘクタール ペソ ペニヒ ヘルツ ペンス ページ"⟩,
   ⟨0x333C, "ベータ ポイント ボルト ホン ポンド ホール ホーン マイクロ マイル マッハ マルク"⟩,
   ⟨0x3347, "マンション ミクロン ミリ ミリバール メガ メガトン メートル ヤード ヤール ユアン"⟩,
   ⟨0x3351, "リットル リラ ルピー ルーブル レム レントゲン ワット 0点 1点 2点 3点 4点 5点 6点"⟩,
   ⟨0x335F, "7点 8点 9点 10点 11点 12点 13点 14点 15点 16点 17点 18点 19点 20点 21点 22点 23点"⟩,
   ⟨0x3370, "24点 hpa da au bar ov pc dm dm2 dm3 iu 平成 昭和 大正 明治 株式会社 pa na μa ma ka"⟩,
   ⟨0x3385, "kb mb gb cal kcal pf nf μf μg mg kg hz khz mhz ghz thz μl ml dl kl fm nm μm mm cm"⟩,
   ⟨0x339E, "km mm2 cm2 m2 km2 mm3 cm3 m3 km3 m∕s m∕s2 pa kpa mpa gpa rad rad∕s rad∕s2 ps ns μs"⟩,
   ⟨0x33B3, "ms pv nv μv mv kv mv pw nw μw mw kw mw kω mω"⟩,
   ⟨0x33C3, "bq cc cd c∕kg"⟩,
   ⟨0x33C8, "db gy ha hp in kk km kt lm ln log lx mb mil mol ph"⟩,
   ⟨0x33D9, "ppm pr sr sv wb v∕m a∕m 1日 2日 3日 4日 5日 6日 7日 8日 9日 10日 11日 12日 13日"⟩,
   ⟨0x33ED, "14日 15日 16日 17日 18日 19日 20日 21日 22日 23日 24日 25日 26日 27日 28日 29日"⟩,
   ⟨0x33FD, "30日 31日 gal"⟩,
   ⟨0xA69C, "ъ ь"⟩,
   ⟨0xA770, "ꝯ"⟩,
   ⟨0xA779, "ꝺ"⟩,
   ⟨0xA77B, "ꝼ"⟩,
   ⟨0xA77D, "ᵹ"⟩,
   ⟨0xA78B, "ꞌ"⟩,
   ⟨0xA78D, "ɥ"⟩,
   ⟨0xA790, "ꞑ"⟩,
   ⟨0xA792, "ꞓ"⟩,
   ⟨0xA7AA, "ɦ ɜ ɡ ɬ ɪ"⟩,
   ⟨0xA7B0, "ʞ ʇ ʝ ꭓ"⟩,
   ⟨0xA7C4, "ꞔ ʂ ᶎ ꟈ"⟩,
   ⟨0xA7C9, "ꟊ"⟩,
   ⟨0xA7CB, "ɤ"⟩,
   ⟨0xA7DC, "ƛ ɷ"⟩,
   ⟨0xA7F1, "s c f q ꟶ"⟩,
   ⟨0xA7F8, "ħ œ"⟩,
   ⟨0xAB5C, "ꜧ ꬷ ɫ ꭒ"⟩,
   ⟨0xAB69, "ʍ"⟩]

end UrlHandoff.Url
