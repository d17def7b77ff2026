/-
This file says which colors are read from style texts. Every notation of an opaque color is read as
the color. A text without a function name is gray, unless three pairs of characters stand behind a
number sign and one of them denotes another channel.
-/

import MeshConsole.Graph.Color
import MeshConsole.Proofs.Text.Numeral
import MeshConsole.Proofs.Text.Splitting
import MeshConsole.Proofs.Text.Trimming

namespace MeshConsole

open Text

/-- A channel is the number below 256 that its text denotes. A text that denotes none stands for
half intensity. -/
def IsChannel (base : Nat) (content : List Char) (channel : UInt8) : Prop :=
  Denotes base content channel.toNat ∨
    (∀ value < 256, ¬ Denotes base content value) ∧ channel = 128

/-- Behind a number sign stand three pairs of ASCII characters. -/
structure HasPairs (core red green blue : List Char) : Prop where
  content : core = '#' :: (red ++ (green ++ blue))
  redPair : red.length = 2
  greenPair : green.length = 2
  bluePair : blue.length = 2
  ascii : ∀ c ∈ red ++ (green ++ blue), c.toNat < 128

/-- A hexadecimal color is a number sign and six hexadecimal digits. -/
def IsHexColor (core : List Char) : Prop :=
  ∃ hex, core = '#' :: hex ∧ hex.length = 6 ∧ ∀ c ∈ hex, ∃ place, IsDigit 16 c place

section Channels

variable {base : Nat} {content : List Char} {channel : UInt8}

/-- A text that denotes a channel is read as the channel. -/
theorem readChannel_of_denotes (denotes : Denotes base content channel.toNat) :
    readChannel base content = channel := by
  have read := (readNatural?_eq_some_iff base 256 ..).mpr ⟨channel.toNat_lt_size, denotes⟩
  rw [readChannel, read]
  exact UInt8.ofNat_toNat

/-- A text that denotes no channel is read as half intensity. -/
theorem readChannel_of_unread (unread : ∀ value < 256, ¬ Denotes base content value) :
    readChannel base content = 128 := by
  have read : readNatural? base 256 content = none := by
    apply Option.eq_none_iff_forall_ne_some.mpr
    intro value read
    obtain ⟨bounded, denotes⟩ := (readNatural?_eq_some_iff ..).mp read
    exact unread value bounded denotes
  rw [readChannel, read]

/-- The reader of a channel gives the channel that the text stands for, and no other. -/
theorem readChannel_eq_iff :
    readChannel base content = channel ↔ IsChannel base content channel := by
  constructor
  · rintro rfl
    by_cases read : ∃ value < 256, Denotes base content value
    · obtain ⟨value, bounded, denotes⟩ := read
      have same : (UInt8.ofNat value).toNat = value := UInt8.toNat_ofNat_of_lt' bounded
      rw [← same] at denotes
      rw [readChannel_of_denotes denotes]
      exact .inl denotes
    · have unread : ∀ value < 256, ¬ Denotes base content value :=
        fun value bounded denotes => read ⟨value, bounded, denotes⟩
      exact .inr ⟨unread, readChannel_of_unread unread⟩
  · rintro (denotes | ⟨unread, rfl⟩)
    · exact readChannel_of_denotes denotes
    · exact readChannel_of_unread unread

/-- A pair stands for half intensity exactly if it denotes no other number. -/
theorem isChannel_half_iff (pair : content.length = 2) :
    IsChannel 16 content 128 ↔ ∀ value, Denotes 16 content value → value = 128 := by
  constructor
  · intro half value denotes
    have bounded : value < 16 ^ content.length := denotes.lt_pow (by decide)
    rw [pair] at bounded
    have same : (UInt8.ofNat value).toNat = value := UInt8.toNat_ofNat_of_lt' bounded
    rw [← same] at denotes
    rw [← same, ← readChannel_of_denotes denotes, readChannel_eq_iff.mpr half]
    rfl
  · intro all
    by_cases half : Denotes 16 content 128
    · exact .inl half
    · refine .inr ⟨fun value _ denotes => half ?_, rfl⟩
      rwa [all value denotes] at denotes

end Channels

section Branches

variable {css : String} {core red green blue : List Char}

/-- Three pairs behind a number sign are read one by one. -/
theorem ofHex?_eq_some_iff {color : Color} :
    Color.ofHex? core = some color ↔ ∃ red green blue, HasPairs core red green blue ∧
      color = ⟨readChannel 16 red, readChannel 16 green, readChannel 16 blue, 1.0⟩ := by
  constructor
  · unfold Color.ofHex?
    intro read
    split at read
    case h_1 a b c d e f =>
      split at read
      case isTrue ascii =>
        refine ⟨[a, b], [c, d], [e, f], ⟨rfl, rfl, rfl, rfl, ?_⟩, (Option.some.inj read).symm⟩
        simpa using ascii
      case isFalse => simp at read
    case h_2 => simp at read
  · rintro ⟨red, green, blue, ⟨rfl, redPair, greenPair, bluePair, ascii⟩, rfl⟩
    obtain ⟨a, b, rfl⟩ := List.length_eq_two.mp redPair
    obtain ⟨c, d, rfl⟩ := List.length_eq_two.mp greenPair
    obtain ⟨e, f, rfl⟩ := List.length_eq_two.mp bluePair
    have all : [a, b, c, d, e, f].all (·.toNat < 128) = true := by simpa using ascii
    simp only [List.cons_append, List.nil_append, Color.ofHex?, all, if_true]

/-- A text without pairs is no hexadecimal color. -/
theorem ofHex?_eq_none (unpaired : ∀ red green blue, ¬ HasPairs core red green blue) :
    Color.ofHex? core = none := by
  apply Option.eq_none_iff_forall_ne_some.mpr
  intro color read
  obtain ⟨red, green, blue, pairs, -⟩ := ofHex?_eq_some_iff.mp read
  exact unpaired red green blue pairs

/-- A text is read by its pairs wherever it has them. -/
theorem ofCss_of_pairs (trimmed : IsTrimmed css.toList core) (pairs : HasPairs core red green blue) :
    Color.ofCss css = ⟨readChannel 16 red, readChannel 16 green, readChannel 16 blue, 1.0⟩ := by
  rw [Color.ofCss, trim_eq_iff.mpr trimmed, ofHex?_eq_some_iff.mpr ⟨red, green, blue, pairs, rfl⟩]

/-- A text without pairs is read by its parts if it starts as a function does, and else is gray. -/
theorem ofCss_of_unpaired (trimmed : IsTrimmed css.toList core)
    (unpaired : ∀ red green blue, ¬ HasPairs core red green blue) :
    Color.ofCss css =
      if (dropStart? "rgb".toList core).isSome then Color.ofFunction core else Color.gray := by
  rw [Color.ofCss, trim_eq_iff.mpr trimmed, ofHex?_eq_none unpaired]

end Branches

/-- What a text that does not start with a function name is read as. -/
structure UnnamedReading (css : String) (core : List Char) : Prop where
  /-- Every pair behind a number sign gives its own channel. -/
  pairs : ∀ red green blue, HasPairs core red green blue →
    IsChannel 16 red (Color.ofCss css).red ∧ IsChannel 16 green (Color.ofCss css).green ∧
      IsChannel 16 blue (Color.ofCss css).blue ∧ (Color.ofCss css).alpha = 1.0
  /-- Every other text is gray. -/
  other : (∀ red green blue, ¬ HasPairs core red green blue) → Color.ofCss css = Color.gray
  /-- The text is gray exactly if no pair denotes another number than half intensity. -/
  gray_iff : Color.ofCss css = Color.gray ↔ ∀ red green blue, HasPairs core red green blue →
    ∀ pair ∈ [red, green, blue], ∀ value, Denotes 16 pair value → value = 128

/-- A text that does not start with a function name is gray, unless one of three pairs behind a
number sign denotes another number than half intensity. Each pair is read on its own. -/
theorem color_unnamed {css : String} {core : List Char} (trimmed : IsTrimmed css.toList core)
    (unnamed : ¬ "rgb".toList <+: core) : UnnamedReading css core := by
  have other (unpaired : ∀ red green blue, ¬ HasPairs core red green blue) :
      Color.ofCss css = Color.gray := by
    rw [ofCss_of_unpaired trimmed unpaired, if_neg]
    rwa [isSome_dropStart?_iff]
  constructor
  case pairs =>
    intro red green blue pairs
    rw [ofCss_of_pairs trimmed pairs]
    exact ⟨readChannel_eq_iff.mp rfl, readChannel_eq_iff.mp rfl, readChannel_eq_iff.mp rfl, rfl⟩
  case other => exact other
  case gray_iff =>
    have grayed {red green blue : List Char} (pairs : HasPairs core red green blue) :
        Color.ofCss css = Color.gray ↔
          ∀ pair ∈ [red, green, blue], ∀ value, Denotes 16 pair value → value = 128 := by
      rw [ofCss_of_pairs trimmed pairs, Color.gray, Color.mk.injEq]
      simp only [readChannel_eq_iff, isChannel_half_iff pairs.redPair,
        isChannel_half_iff pairs.greenPair, isChannel_half_iff pairs.bluePair,
        List.forall_mem_cons, List.not_mem_nil, false_implies, implies_true, and_true]
    constructor
    · exact fun gray red green blue pairs => (grayed pairs).mp gray
    · intro halves
      by_cases paired : ∃ red green blue, HasPairs core red green blue
      · obtain ⟨red, green, blue, pairs⟩ := paired
        exact (grayed pairs).mpr (halves red green blue pairs)
      · exact other fun red green blue pairs => paired ⟨red, green, blue, pairs⟩

/-- One good pair between two bad ones makes a color that is not gray. -/
theorem color_unnamed_onePair :
    (IsTrimmed " #zz12+z".toList "#zz12+z".toList ∧ ¬ "rgb".toList <+: "#zz12+z".toList) ∧
      UnnamedReading " #zz12+z" "#zz12+z".toList := by
  have trimmed : IsTrimmed " #zz12+z".toList "#zz12+z".toList := trim_eq_iff.mp (by decide)
  have unnamed : ¬ "rgb".toList <+: "#zz12+z".toList := by decide
  exact ⟨⟨trimmed, unnamed⟩, color_unnamed trimmed unnamed⟩

/-- Plus signs in the pairs are read over. -/
theorem ofCss_plusSigns :
    IsTrimmed "#+1+2+3".toList "#+1+2+3".toList ∧ ¬ "rgb".toList <+: "#+1+2+3".toList ∧
      ¬ IsHexColor "#+1+2+3".toList ∧ Color.ofCss "#+1+2+3" = ⟨1, 2, 3, 1.0⟩ ∧
        Color.ofCss "#+1+2+3" ≠ Color.gray := by
  have read : Color.ofCss "#+1+2+3" = ⟨1, 2, 3, 1.0⟩ := by rfl
  refine ⟨trim_eq_iff.mp (by decide), by decide, ?_, read, ?_⟩
  · rintro ⟨hex, marked, -, digits⟩
    obtain rfl : "+1+2+3".toList = hex := (List.cons.inj marked).2
    obtain ⟨place, plus, -⟩ := digits '+' (by decide)
    have noDigit : digitLetters.idxOf? '+'.toLower = none := by decide
    exact Option.some_ne_none place (plus.symm.trans noDigit)
  · intro gray
    have red : (1 : UInt8) = 128 := congrArg Color.red (read.symm.trans gray)
    exact absurd red (by decide)

/-- A function of three parts. -/
def functionSpelling (first second third : List Char) : List Char :=
  "rgb(".toList ++ (first ++ ',' :: (second ++ ',' :: third) ++ [')'])

/-- The spellings of an opaque color. -/
inductive ColorSpelling (red green blue : UInt8) : List Char → Prop where
  /-- The style text that is written for the color. -/
  | printed : ColorSpelling red green blue (Color.css ⟨red, green, blue, 1.0⟩).toList
  /-- The same text in any mixture of small and large letters. -/
  | anyCase {content : List Char}
      (same : content.map Char.toLower = (Color.css ⟨red, green, blue, 1.0⟩).toList) :
      ColorSpelling red green blue content
  /-- A function of the channels in decimal digits, with blank characters around each or none. -/
  | function {first second third : List Char}
      (redPart : IsPadded (toString red.toNat).toList first)
      (greenPart : IsPadded (toString green.toNat).toList second)
      (bluePart : IsPadded (toString blue.toNat).toList third) :
      ColorSpelling red green blue (functionSpelling first second third)

section Hexadecimal

variable {content : List Char} {red green blue : UInt8}

/-- The style text of an opaque color is its hexadecimal text. -/
theorem css_of_solid (red green blue : UInt8) :
    (Color.css ⟨red, green, blue, 1.0⟩).toList =
      '#' :: (channelHex red ++ (channelHex green ++ channelHex blue)) := by
  have solid : Color.isOpaque ⟨red, green, blue, 1.0⟩ = true := by
    show decide ((1.0 - 1.0 : Float).abs < 0.001) = true
    decide +kernel
  rw [Color.css, if_pos solid, String.toList_ofList]
  rfl

/-- Only the number sign has the number sign as its small form. -/
theorem eq_of_toLower_eq_numberSign {c : Char} (same : c.toLower = '#') : c = '#' := by
  unfold Char.toLower at same
  split at same
  case isTrue capital =>
    have large : 65 ≤ c.toNat := UInt32.le_iff_toNat_le.mp capital.1
    have small : c.toNat ≤ 90 := UInt32.le_iff_toNat_le.mp capital.2
    have moved : (c.val + 32).toNat = c.toNat + 32 := by
      rw [UInt32.toNat_add]
      show (c.toNat + 32) % 2 ^ 32 = c.toNat + 32
      omega
    have code : (c.val + 32).toNat = 35 := congrArg Char.toNat same
    omega
  case isFalse => exact same

/-- A character is a hexadecimal digit if its small form is one. -/
theorem isDigit_of_toLower {c : Char} {place : Nat} (small : place < 16)
    (same : c.toLower = lowerDigit place) : IsDigit 16 c place := by
  have letters : ∀ place < 16, digitLetters.idxOf? (lowerDigit place) = some place := by
    decide +kernel
  refine ⟨?_, small⟩
  rw [same, letters place small]

/-- The digits of a channel are small letters. -/
theorem map_toLower_channelHex (channel : UInt8) :
    (channelHex channel).map Char.toLower = channelHex channel := by
  have letters : ∀ place < 16, (lowerDigit place).toLower = lowerDigit place := by decide +kernel
  have bounded : channel.toNat < 256 := channel.toNat_lt_size
  rw [channelHex, List.map_cons, List.map_cons, letters _ (by omega), letters _ (by omega)]
  rfl

/-- A pair with the digits of a channel as its small form denotes the channel. -/
theorem numeral_of_toLower {pair : List Char} {channel : UInt8}
    (same : pair.map Char.toLower = channelHex channel) : Numeral 16 pair channel.toNat := by
  have bounded : channel.toNat < 256 := channel.toNat_lt_size
  obtain ⟨first, rest, rfl, high, behind⟩ := List.map_eq_cons_iff.mp same
  obtain ⟨second, rest, rfl, low, none⟩ := List.map_eq_cons_iff.mp behind
  obtain rfl := List.map_eq_nil_iff.mp none
  refine ⟨by simp, [channel.toNat / 16, channel.toNat % 16], ?_, ?_⟩
  · exact .cons (isDigit_of_toLower (by omega) high)
      (.cons (isDigit_of_toLower (by omega) low) .nil)
  · rw [ofDigits_reverse]
    show (0 * 16 + channel.toNat / 16) * 16 + channel.toNat % 16 = channel.toNat
    omega

/-- A text that is the style text of an opaque color in any letters has a pair for each channel. -/
theorem exists_pairs
    (same : content.map Char.toLower = (Color.css ⟨red, green, blue, 1.0⟩).toList) :
    ∃ first second third, HasPairs content first second third ∧ Numeral 16 first red.toNat ∧
      Numeral 16 second green.toNat ∧ Numeral 16 third blue.toNat := by
  rw [css_of_solid] at same
  obtain ⟨mark, hex, rfl, sign, pairs⟩ := List.map_eq_cons_iff.mp same
  obtain rfl := eq_of_toLower_eq_numberSign sign
  obtain ⟨first, rest, rfl, redPair, others⟩ := List.map_eq_append_iff.mp pairs
  obtain ⟨second, third, rfl, greenPair, bluePair⟩ := List.map_eq_append_iff.mp others
  have long {pair : List Char} {channel : UInt8}
      (same : pair.map Char.toLower = channelHex channel) : pair.length = 2 := by
    rw [← List.length_map Char.toLower, same]
    rfl
  have ascii {pair : List Char} {channel : UInt8}
      (same : pair.map Char.toLower = channelHex channel) : ∀ c ∈ pair, c.toNat < 128 := by
    intro c member
    obtain ⟨place, digit⟩ := (numeral_of_toLower same).isDigit_of_mem member
    exact digit.ascii
  refine ⟨first, second, third, ⟨rfl, long redPair, long greenPair, long bluePair, ?_⟩,
    numeral_of_toLower redPair, numeral_of_toLower greenPair, numeral_of_toLower bluePair⟩
  rw [List.forall_mem_append, List.forall_mem_append]
  exact ⟨ascii redPair, ascii greenPair, ascii bluePair⟩

/-- The style text of an opaque color is read as the color in any letters. -/
theorem ofCss_of_toLower {css : String}
    (same : content.map Char.toLower = (Color.css ⟨red, green, blue, 1.0⟩).toList)
    (padded : IsPadded content css.toList) : Color.ofCss css = ⟨red, green, blue, 1.0⟩ := by
  obtain ⟨first, second, third, pairs, redDigits, greenDigits, blueDigits⟩ := exists_pairs same
  have visible : ∀ c ∈ content, isBlank c = false := by
    rw [pairs.content, List.forall_mem_cons, List.forall_mem_append, List.forall_mem_append]
    exact ⟨by decide, fun c => redDigits.isBlank_of_mem, fun c => greenDigits.isBlank_of_mem,
      fun c => blueDigits.isBlank_of_mem⟩
  rw [ofCss_of_pairs (padded.isTrimmed visible) pairs, readChannel_of_denotes (.inl redDigits),
    readChannel_of_denotes (.inl greenDigits), readChannel_of_denotes (.inl blueDigits)]

end Hexadecimal

section Functions

variable {part first second third : List Char} {red green blue : UInt8}

/-- No character of a padded number is a mark of a function. -/
theorem mark_not_mem_padded {n : Nat} {mark : Char} (marked : mark ∈ ['r', ',', ')'])
    (padded : IsPadded (decimal n) part) : mark ∉ part := by
  have solid : isBlank mark = false ∧ ∀ place < 10, ¬ IsDigit 10 mark place := by
    obtain rfl | rfl | rfl : mark = 'r' ∨ mark = ',' ∨ mark = ')' := by simpa using marked
    all_goals decide +kernel
  obtain ⟨before, after, rfl, blankBefore, blankAfter⟩ := padded
  intro member
  rcases List.mem_append.mp member with before | member
  · exact absurd (blankBefore mark before) (by simp [solid.1])
  rcases List.mem_append.mp member with digits | after
  · obtain ⟨place, digit⟩ := (numeral_decimal n).isDigit_of_mem digits
    exact solid.2 place digit.2 digit
  · exact absurd (blankAfter mark after) (by simp [solid.1])

/-- Trimming leaves the number of a padded number. -/
theorem trim_padded {n : Nat} (padded : IsPadded (decimal n) part) : trim part = decimal n := by
  apply trim_eq_iff.mpr
  exact padded.isTrimmed fun c member => (numeral_decimal n).isBlank_of_mem member

/-- The parts of a function stand between its parentheses. -/
theorem functionParts_of_body {body : List Char} (unnamed : 'r' ∉ body) (unclosed : ')' ∉ body) :
    functionParts ("rgb(".toList ++ (body ++ [')'])) = (splitAt ',' body).map trim := by
  have longer : ¬ "rgba(".toList <+: "rgb(".toList ++ (body ++ [')']) := by simp
  have again : ¬ "rgb(".toList <+: body ++ [')'] := by
    intro starts
    have start := starts.subset (show 'r' ∈ "rgb(".toList by decide)
    simp [unnamed] at start
  have opened : dropTrailing (· == ')') (body ++ [')']) = body := by
    refine dropTrailing_append (by simp) fun c ends => beq_false_of_ne ?_
    rintro rfl
    exact unclosed (List.mem_of_mem_getLast? ends)
  rw [functionParts, dropStarts_of_not_prefix longer, dropStarts_append (by decide) again, opened]

/-- The parts of a function of three padded numbers are the numbers. -/
theorem functionParts_padded {r g b : Nat} (redPart : IsPadded (decimal r) first)
    (greenPart : IsPadded (decimal g) second) (bluePart : IsPadded (decimal b) third) :
    functionParts (functionSpelling first second third) = [decimal r, decimal g, decimal b] := by
  have absent {mark : Char} (marked : mark ∈ ['r', ',', ')']) :
      mark ∉ first ∧ mark ∉ second ∧ mark ∉ third :=
    ⟨mark_not_mem_padded marked redPart, mark_not_mem_padded marked greenPart,
      mark_not_mem_padded marked bluePart⟩
  have unnamed : 'r' ∉ first ++ ',' :: (second ++ ',' :: third) := by
    simp [absent (show 'r' ∈ ['r', ',', ')'] by decide)]
  have unclosed : ')' ∉ first ++ ',' :: (second ++ ',' :: third) := by
    simp [absent (show ')' ∈ ['r', ',', ')'] by decide)]
  obtain ⟨redWhole, greenWhole, blueWhole⟩ := absent (show ',' ∈ ['r', ',', ')'] by decide)
  rw [functionSpelling, functionParts_of_body unnamed unclosed, splitAt_append, splitAt_append,
    splitAt_of_not_mem redWhole, splitAt_of_not_mem greenWhole, splitAt_of_not_mem blueWhole]
  simp [trim_padded redPart, trim_padded greenPart, trim_padded bluePart]

/-- A function of three padded channels is read as the color. -/
theorem ofFunction_padded (redPart : IsPadded (decimal red.toNat) first)
    (greenPart : IsPadded (decimal green.toNat) second)
    (bluePart : IsPadded (decimal blue.toNat) third) :
    Color.ofFunction (functionSpelling first second third) = ⟨red, green, blue, 1.0⟩ := by
  have read (channel : UInt8) : readChannel 10 (decimal channel.toNat) = channel :=
    readChannel_of_denotes (.inl (numeral_decimal channel.toNat))
  rw [Color.ofFunction, functionParts_padded redPart greenPart bluePart]
  simp [partChannel, read]

/-- A function of three padded channels is read as the color, also between blank characters. -/
theorem ofCss_of_function {css : String}
    (padded : IsPadded (functionSpelling first second third) css.toList)
    (redPart : IsPadded (decimal red.toNat) first)
    (greenPart : IsPadded (decimal green.toNat) second)
    (bluePart : IsPadded (decimal blue.toNat) third) :
    Color.ofCss css = ⟨red, green, blue, 1.0⟩ := by
  have trimmed : IsTrimmed css.toList (functionSpelling first second third) := by
    constructor
    case around => exact padded
    case first =>
      rintro c ⟨⟩
      decide
    case last =>
      have close : (functionSpelling first second third).getLast? = some ')' := by
        simp [functionSpelling, List.getLast?_cons]
      rw [close]
      rintro c ⟨⟩
      decide
  have unpaired (red green blue : List Char) :
      ¬ HasPairs (functionSpelling first second third) red green blue := by
    intro pairs
    exact absurd (List.cons.inj pairs.content).1 (by decide)
  have named : "rgb".toList <+: functionSpelling first second third := by simp [functionSpelling]
  rw [ofCss_of_unpaired trimmed unpaired, if_pos (isSome_dropStart?_iff.mpr named),
    ofFunction_padded redPart greenPart bluePart]

end Functions

/-- Every spelling of an opaque color is read as the color, also between blank characters. -/
theorem color_spelling {red green blue : UInt8} {content : List Char}
    (spelled : ColorSpelling red green blue content) {css : String}
    (padded : IsPadded content css.toList) : Color.ofCss css = ⟨red, green, blue, 1.0⟩ := by
  cases spelled with
  | printed =>
      refine ofCss_of_toLower ?_ padded
      simp only [css_of_solid, List.map_cons, List.map_append, map_toLower_channelHex]
      rfl
  | anyCase same => exact ofCss_of_toLower same padded
  | function redPart greenPart bluePart =>
      rw [toList_toString] at redPart greenPart bluePart
      exact ofCss_of_function padded redPart greenPart bluePart

/-- Tabs, ideographic spaces and line ends around the channels are read over. -/
theorem color_spelling_spaced :
    (ColorSpelling 255 0 7 "rgb(\t255 ,0,\u30007\n)".toList ∧
      IsPadded "rgb(\t255 ,0,\u30007\n)".toList " rgb(\t255 ,0,\u30007\n)\n".toList) ∧
        Color.ofCss " rgb(\t255 ,0,\u30007\n)\n" = ⟨255, 0, 7, 1.0⟩ := by
  have blank {c : Char} (single : isBlank c = true) : ∀ d ∈ [c], isBlank d = true :=
    List.forall_mem_singleton.mpr single
  have redPart : IsPadded (toString (255 : UInt8).toNat).toList "\t255 ".toList :=
    ⟨['\t'], [' '], rfl, blank (by decide), blank (by decide)⟩
  have greenPart : IsPadded (toString (0 : UInt8).toNat).toList "0".toList :=
    ⟨[], [], rfl, List.forall_mem_nil _, List.forall_mem_nil _⟩
  have bluePart : IsPadded (toString (7 : UInt8).toNat).toList "\u30007\n".toList :=
    ⟨['\u3000'], ['\n'], rfl, blank (by decide), blank (by decide)⟩
  have spelled : ColorSpelling 255 0 7 "rgb(\t255 ,0,\u30007\n)".toList :=
    .function redPart greenPart bluePart
  have padded : IsPadded "rgb(\t255 ,0,\u30007\n)".toList
      " rgb(\t255 ,0,\u30007\n)\n".toList :=
    ⟨[' '], ['\n'], rfl, blank (by decide), blank (by decide)⟩
  exact ⟨⟨spelled, padded⟩, color_spelling spelled padded⟩

end MeshConsole
