import Sandwich.Text.Mark

/-! The composed form of a text: marks in the order of their ranks, and each
letter one character with the marks upon it as far as there is such a character. -/

namespace Sandwich.Text

/-- A mark, and then each character that it is written upon beside the two as one. -/
def compositionTable : List (Nat × String) := [
  (0x0300, "aàeèiìoòuùüǜnǹеѐиѝēḕōṑwẁâầăằêềôồơờưừyỳἀἂἁἃἐἒἑἓἠἢἡἣἰἲἱἳὀὂὁὃὐὒὑὓὠὢὡὣ"),
  (0x0300, "αὰεὲηὴιὶοὸυὺωὼϊῒϋῢ"),
  (0x0301, "aáeéiíoóuúyýcćlĺnńrŕsśzźüǘgǵåǻæǽøǿϊΐαάεέηήιίϋΰοόυύωώгѓкќçḉēḗïḯkḱmḿ"),
  (0x0301, "õṍōṓpṕũṹwẃâấăắêếôốơớưứἀἄἁἅἐἔἑἕἠἤἡἥἰἴἱἵὀὄὁὅὐὔὑὕὠὤὡὥ"),
  (0x0302, "aâeêiîoôuûcĉgĝhĥjĵsŝwŵyŷzẑạậẹệọộ"),
  (0x0303, "aãnñoõiĩuũvṽâẫăẵeẽêễôỗơỡưữyỹ"),
  (0x0304, "aāeēiīoōuūüǖäǟȧǡæǣǫǭöȫõȭȯȱyȳиӣуӯgḡḷḹṛṝαᾱιῑυῡ"),
  (0x0306, "aăeĕgğiĭoŏuŭийуўжӂаӑеӗȩḝạặαᾰιῐυῠ"),
  (0x0307, "cċeėgġzżaȧoȯbḃdḋfḟhḣmṁnṅpṗrṙsṡśṥšṧṣṩtṫwẇxẋyẏ𐗒𐗉𐗚𐗤"),
  (0x0308, "aäeëiïoöuüyÿιϊυϋеёіїаӓәӛжӝзӟиӥоӧөӫэӭуӱчӵыӹhḧõṏūṻwẅxẍtẗ"),
  (0x0309, "aảâẩăẳeẻêểiỉoỏôổơởuủưửyỷ"),
  (0x030a, "aåuůwẘyẙ"),
  (0x030b, "oőuűуӳ"),
  (0x030c, "cčdďeělľnňrřsštťzžaǎiǐoǒuǔüǚgǧkǩʒǯjǰhȟ"),
  (0x030f, "aȁeȅiȉoȍrȑuȕѵѷ"),
  (0x0311, "aȃeȇiȋoȏrȓuȗ"),
  (0x0313, "αἀεἐηἠιἰοὀυὐωὠρῤ"),
  (0x0314, "αἁεἑηἡιἱοὁυὑωὡρῥ"),
  (0x031b, "oơuư"),
  (0x0323, "bḅdḍhḥkḳlḷmṃnṇrṛsṣtṭvṿwẉzẓaạeẹiịoọơợuụưựyỵ"),
  (0x0324, "uṳ"),
  (0x0325, "aḁ"),
  (0x0326, "sștț"),
  (0x0327, "cçgģkķlļnņrŗsştţeȩdḑhḩ"),
  (0x0328, "aąeęiįuųoǫ"),
  (0x032d, "dḓeḙlḽnṋtṱuṷ"),
  (0x032e, "hḫ"),
  (0x0330, "eḛiḭuṵ"),
  (0x0331, "bḇdḏkḵlḻnṉrṟtṯzẕhẖ"),
  (0x0338, "←↚→↛↔↮⇐⇍⇔⇎⇒⇏∃∄∈∉∋∌∣∤∥∦∼≁≃≄≅≇≈≉=≠≡≢≍≭\x3c≮\x3e≯≤≰≥≱≲≴≳≵≶≸≷≹≺⊀≻⊁⊂⊄⊃⊅"),
  (0x0338, "⊆⊈⊇⊉⊢⊬⊨⊭⊩⊮⊫⊯≼⋠≽⋡⊑⋢⊒⋣⊲⋪⊳⋫⊴⋬⊵⋭"),
  (0x0342, "ἀἆἁἇἠἦἡἧἰἶἱἷὐὖὑὗὠὦὡὧαᾶηῆιῖϊῗυῦϋῧωῶ"),
  (0x0653, "\u0627\u0622"),
  (0x0654, "\u0627\u0623\u0648\u0624\u064a\u0626\u06d5\u06c0\u06c1\u06c2"),
  (0x0654, "\u06d2\u06d3"),
  (0x0655, "\u0627\u0625"),
  (0x093c, "नऩरऱळऴ"),
  (0x09be, "\u09c7\u09cb"),
  (0x09d7, "\u09c7\u09cc"),
  (0x0b3e, "\u0b47\u0b4b"),
  (0x0b56, "\u0b47\u0b48"),
  (0x0b57, "\u0b47\u0b4c"),
  (0x0bbe, "\u0bc6\u0bca\u0bc7\u0bcb"),
  (0x0bd7, "ஒஔ\u0bc6\u0bcc"),
  (0x0c56, "\u0c46\u0c48"),
  (0x0cc2, "\u0cc6\u0cca"),
  (0x0cd5, "\u0cbf\u0cc0\u0cc6\u0cc7\u0cca\u0ccb"),
  (0x0cd6, "\u0cc6\u0cc8"),
  (0x0d3e, "\u0d46\u0d4a\u0d47\u0d4b"),
  (0x0d57, "\u0d46\u0d4c"),
  (0x0dca, "\u0dd9\u0dda\u0ddc\u0ddd"),
  (0x0dcf, "\u0dd9\u0ddc"),
  (0x0ddf, "\u0dd9\u0dde"),
  (0x102e, "ဥဦ"),
  (0x1b35, "ᬅᬆᬇᬈᬉᬊᬋᬌᬍᬎᬑᬒ\u1b3a\u1b3b\u1b3c\u1b3d\u1b3e\u1b40\u1b3f\u1b41"),
  (0x1b35, "\u1b42\u1b43"),
  (0x3099, "かがきぎくぐけげこごさざしじすずせぜそぞただちぢつづてでとどはばひびふぶへべほぼうゔゝゞカガキギクグケゲコゴサザシジスズセゼソゾタダ"),
  (0x3099, "チヂツヅテデトドハバヒビフブヘベホボウヴワヷヰヸヱヹヲヺヽヾ"),
  (0x309a, "はぱひぴふぷへぺほぽハパヒピフプヘペホポ"),
  (0x110ba, "𑂙𑂚𑂛𑂜𑂥𑂫"),
  (0x11127, "𑄱𑄮𑄲𑄯"),
  (0x1133e, "𑍇𑍋"),
  (0x11357, "𑍇𑍌"),
  (0x113b8, "𑏅𑎸"),
  (0x113bb, "𑎄𑎅"),
  (0x113c2, "𑎋𑎎𑏅𑏂"),
  (0x113c9, "𑎂𑎃𑎐𑎑𑏅𑏉"),
  (0x114b0, "𑒹𑒼"),
  (0x114ba, "𑒹𑒻"),
  (0x114bd, "𑒹𑒾"),
  (0x115af, "𑖸𑖺𑖹𑖻"),
  (0x11930, "𑤵𑤸"),
  (0x1611e, "𖄡𖄞"),
  (0x1611f, "𖄦𖄩𖄤𖄡𖄦𖄢𖄧"),
  (0x16120, "𖄨𖄡𖄨"),
  (0x16129, "𖄡𖄩"),
  (0x16d67, "𖵨𖵧𖵣𖵩𖵩𖵪")]

/-- A character that stands for two others. -/
structure Composition where
  base : Char
  mark : Char
  whole : Char

/-- The characters in twos, as what stands beside a mark. -/
def pairUp (mark : Char) : List Char → List Composition
  | base :: whole :: rest => ⟨base, mark, whole⟩ :: pairUp mark rest
  | _ => []

/-- The characters that stand for two others, syllables of Hangul apart. -/
def compositions : List Composition :=
  compositionTable.flatMap fun (mark, pairs) => pairUp (Char.ofNat mark) pairs.toList

/-! ### Hangul -/

/-- The number that a character has from `start`, if it is one of `count`. -/
def place? (start count : Nat) (c : Char) : Option Nat :=
  if start ≤ c.toNat && c.toNat < start + count then some (c.toNat - start) else none

/-- The first syllable. The syllables are in order of their leads, vowels and tails. -/
def syllables : Nat := 0xac00

def leads : Nat := 0x1100

def vowels : Nat := 0x1161

/-- The place before the first tail: a syllable with tail zero has none. -/
def tails : Nat := 0x11a7

/-- The sounds of a syllable. -/
def sounds (syllable : Nat) : List Char :=
  let pair := [Char.ofNat (leads + syllable / 588), Char.ofNat (vowels + syllable % 588 / 28)]
  if syllable % 28 = 0 then pair else pair ++ [Char.ofNat (tails + syllable % 28)]

/-- The syllable of a lead and a vowel, or of a syllable without a tail and a tail. -/
def syllable? (a b : Char) : Option Char :=
  match place? leads 19 a, place? vowels 21 b, place? syllables 11172 a, place? tails 28 b with
  | some lead, some vowel, _, _ => some (Char.ofNat (syllables + (lead * 21 + vowel) * 28))
  | _, _, some syllable, some tail =>
    if syllable % 28 = 0 && tail ≠ 0 then some (Char.ofNat (syllables + syllable + tail)) else none
  | _, _, _, _ => none

/-! ### Taking apart and putting together -/

/-- The base and marks of a character, taken apart at most `depth` times. -/
def decompose : (depth : Nat) → Char → List Char
  | 0, c => [c]
  | depth + 1, c =>
    match place? syllables 11172 c with
    | some syllable => sounds syllable
    | none =>
      match compositions.find? (·.whole = c) with
      | some pair => decompose depth pair.base ++ [pair.mark]
      | none => [c]

/-- A mark put behind a text that is given from its end, before the marks of higher ranks. -/
def insertMark (c : Char) : List Char → List Char
  | [] => [c]
  | d :: rest => if rank c < rank d then d :: insertMark c rest else c :: d :: rest

/-- The text with the marks upon each character in the order of their ranks. -/
def arrange (text : List Char) : List Char :=
  (text.foldl (fun done c => if rank c = 0 then c :: done else insertMark c done) []).reverse

/-- The character that stands for two others. -/
def compose? (a b : Char) : Option Char :=
  match syllable? a b with
  | some c => some c
  | none => (compositions.find? fun pair => pair.base = a && pair.mark = b).map (·.whole)

/-- The rest of a text composed with the character `base` before it, `kept` being the marks upon
it that do not compose, last one first. A mark meets the base over marks of lower ranks only. -/
def composeOnto (base : Char) (kept : List Char) : List Char → List Char
  | [] => base :: kept.reverse
  | c :: rest =>
    let meets := match kept with
      | [] => true
      | last :: _ => rank last < rank c
    match if meets then compose? base c else none with
    | some whole => composeOnto whole kept rest
    | none =>
      if rank c = 0 then base :: kept.reverse ++ composeOnto c [] rest
      else composeOnto base (c :: kept) rest

/-- The composed form of a text. -/
def compose (text : List Char) : List Char :=
  match arrange (text.flatMap (decompose 4)) with
  | [] => []
  | c :: rest => composeOnto c [] rest

end Sandwich.Text
