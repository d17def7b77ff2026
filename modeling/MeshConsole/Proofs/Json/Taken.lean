/-
This file shows that strings and numbers are taken off the front of a text without a look at what
stands behind them. Only the end of a number must be seen.
-/

import Mathlib.Data.List.DropRight
import MeshConsole.Proofs.Json.Printed

namespace MeshConsole.Json

/-- No number goes on here. -/
def EndsNumber (rest : List Char) : Prop :=
  ∀ c ∈ rest.head?, isDigit c = false ∧ c ≠ '.' ∧ c ≠ 'e' ∧ c ≠ 'E'

/-- A reader takes this text off the front of every longer one, given more fuel than characters,
unless a number goes on behind it. -/
def Takes {α : Type} (read : Nat → List Char → Option (α × List Char)) (text : List Char)
    (result : α) : Prop :=
  ∀ fuel rest, text.length < fuel → EndsNumber rest → read fuel (text ++ rest) = some (result, rest)

section Ends

variable {rest : List Char}

/-- No number goes on behind the end of a text. -/
theorem endsNumber_nil : EndsNumber [] := nofun

/-- A number does not go on with any other character. -/
theorem endsNumber_cons {c : Char} (other : isDigit c = false ∧ c ≠ '.' ∧ c ≠ 'e' ∧ c ≠ 'E') :
    EndsNumber (c :: rest) := by
  intro first isFirst
  obtain rfl := Option.some.inj isFirst
  exact other

variable {α : Type} {read : Nat → List Char → Option (α × List Char)} {text : List Char}
  {result : α}

/-- There is always fuel for one more step. -/
theorem takes_of_succ (step : ∀ fuel rest, text.length ≤ fuel → EndsNumber rest →
    read (fuel + 1) (text ++ rest) = some (result, rest)) : Takes read text result := by
  intro fuel rest enough ends
  obtain ⟨fuel, rfl⟩ := Nat.exists_eq_add_one.mpr (Nat.zero_lt_of_lt enough)
  exact step fuel rest (Nat.le_of_lt_succ enough) ends

/-- A text that is taken is read on its own. -/
theorem Takes.alone (takes : Takes read text result) :
    read (text.length + 1) text = some (result, []) := by
  have all := takes _ [] (Nat.lt_succ_self _) endsNumber_nil
  rwa [List.append_nil] at all

end Ends

section Spaces

variable {space rest : List Char}

/-- A text that holds nothing but space. -/
def IsBlankText (text : List Char) : Prop := ∀ c ∈ text, isSpace c = true

/-- What is skipped in front of a token is space. -/
theorem exists_space {cs : List Char} (skipped : skipSpace cs = rest) :
    ∃ space, IsBlankText space ∧ cs = space ++ rest := by
  subst skipped
  exact ⟨cs.takeWhile isSpace, fun _ => List.mem_takeWhile_imp,
    List.takeWhile_append_dropWhile.symm⟩

/-- Space is skipped. -/
theorem skipSpace_append (blank : IsBlankText space) (cs : List Char) :
    skipSpace (space ++ cs) = skipSpace cs :=
  List.dropWhile_append_of_pos blank

/-- A number does not go on with space. -/
theorem endsNumber_space (blank : IsBlankText space) (ends : EndsNumber rest) :
    EndsNumber (space ++ rest) := by
  cases space with
  | nil => exact ends
  | cons c cs =>
      refine endsNumber_cons ?_
      have space := blank c List.mem_cons_self
      simp only [isSpace, Bool.or_eq_true, beq_iff_eq] at space
      rcases space with ((rfl | rfl) | rfl) | rfl <;> decide

end Spaces

section Strings

variable {fuel unit : Nat} {used rest cs : List Char} {text : Option (List Char)}

/-- Four digits name the same unit wherever they stand. -/
theorem exists_unit (read : readUnit? cs = some (unit, rest)) :
    ∃ digits, cs = digits ++ rest ∧ ∀ other, readUnit? (digits ++ other) = some (unit, other) := by
  unfold readUnit? at read
  split at read
  case h_1 a b c d rest' =>
    obtain ⟨value, known, same⟩ := Option.map_eq_some_iff.mp read
    cases same
    exact ⟨[a, b, c, d], rfl, fun other => congrArg (Option.map fun unit => (unit, other)) known⟩
  case h_2 => cases read

/-- A unit behind this text does not close a surrogate pair. -/
def ClosesNoPair (cs : List Char) : Prop :=
  ∀ more, cs = '\\' :: 'u' :: more →
    ∃ second after, readUnit? more = some (second, after) ∧ isTrailing second = false

/-- Whether a unit closes a surrogate pair is known from the string that is taken. -/
theorem Takes.closesNoPair (takes : Takes readString? used text)
    (alone : ClosesNoPair (used ++ rest)) (other : List Char) : ClosesNoPair (used ++ other) := by
  intro more same
  obtain - | ⟨c, used⟩ := used
  · cases takes.alone
  obtain - | ⟨letter, used⟩ := used
  · obtain ⟨rfl, -⟩ := List.cons.inj same
    cases takes.alone
  obtain ⟨rfl, rfl, rfl⟩ : c = '\\' ∧ letter = 'u' ∧ used ++ other = more := by simpa using same
  -- The unit stands before the end of the string, so it is the same before any other text.
  have body := takes.alone
  rw [readString?] at body
  obtain ⟨⟨unit, after⟩, found, -⟩ := Option.bind_eq_some_iff.mp body
  obtain ⟨digits, rfl, unitRead⟩ := exists_unit found
  obtain ⟨second, behind, again, trailing⟩ := alone (digits ++ after ++ rest) rfl
  rw [List.append_assoc, unitRead] at again
  cases again
  exact ⟨unit, after ++ other, by rw [List.append_assoc, unitRead], trailing⟩

/-- The quote ends a string. -/
theorem takes_quote : Takes readString? ['"'] (some []) :=
  takes_of_succ fun _ _ _ _ => rfl

/-- A string is taken with what stands in front of it. -/
theorem Takes.in_front {c : Char} {result : Option (List Char)}
    (takes : Takes readString? used text) (front : List Char)
    (step : ∀ fuel rest, readString? fuel (used ++ rest) = some (text, rest) →
      readString? (fuel + 1) (c :: front ++ (used ++ rest)) = some (result, rest)) :
    Takes readString? (c :: front ++ used) result := by
  refine takes_of_succ fun fuel rest enough ends => ?_
  rw [List.length_append, List.length_cons] at enough
  rw [List.append_assoc]
  exact step fuel rest (takes fuel rest (by omega) ends)

/-- A character that needs no escape is taken. -/
theorem Takes.plain {c : Char} (quote : c ≠ '"') (printable : ¬ (c.toNat < 32 ∨ c = '\\'))
    (takes : Takes readString? used text) :
    Takes readString? (c :: used) (text.map (c :: ·)) := by
  obtain ⟨visible, backslash⟩ := not_or.mp printable
  exact takes.in_front [] fun _ _ tail =>
    readString?_plain quote backslash (Nat.le_of_not_lt visible) tail

/-- A backslash and the letter of an escape are taken. -/
theorem Takes.short {c letter : Char} (known : shortEscape? letter = some c)
    (takes : Takes readString? used text) :
    Takes readString? ('\\' :: letter :: used) (text.map (c :: ·)) :=
  takes.in_front [letter] fun _ _ tail => readString?_short known tail

/-- An escaped unit that opens no surrogate pair is taken. -/
theorem Takes.single {digits : List Char}
    (read : ∀ other, readUnit? (digits ++ other) = some (unit, other))
    (single : isLeading unit = false) (takes : Takes readString? used text) :
    Takes readString? ('\\' :: 'u' :: digits ++ used)
      (if isTrailing unit then none else text.map (Char.ofNat unit :: ·)) := by
  refine takes.in_front ('u' :: digits) fun fuel rest tail => ?_
  rw [List.cons_append, List.cons_append, readString?, read]
  simp [single, tail]

/-- Half a surrogate pair is taken. -/
theorem Takes.half {digits : List Char}
    (read : ∀ other, readUnit? (digits ++ other) = some (unit, other))
    (leading : isLeading unit = true) (takes : Takes readString? used text)
    (alone : ClosesNoPair (used ++ rest)) :
    Takes readString? ('\\' :: 'u' :: digits ++ used) none := by
  refine takes.in_front ('u' :: digits) fun fuel other tail => ?_
  rw [List.cons_append, List.cons_append, readString?, read]
  simp only [Option.bind_eq_bind, Option.bind_some, leading, if_true]
  have alone := takes.closesNoPair alone other
  split
  case h_1 more same =>
    obtain ⟨second, after, read, trailing⟩ := alone more same
    rw [read]
    simp [trailing, tail]
  case h_2 =>
    rw [tail]
    rfl

/-- A surrogate pair is taken. -/
theorem Takes.pair {digits more : List Char} {second : Nat}
    (read : ∀ other, readUnit? (digits ++ other) = some (unit, other))
    (leading : isLeading unit = true)
    (readSecond : ∀ other, readUnit? (more ++ other) = some (second, other))
    (trailing : isTrailing second = true) (takes : Takes readString? used text) :
    Takes readString? ('\\' :: 'u' :: (digits ++ '\\' :: 'u' :: more) ++ used)
      (text.map (pairChar unit second :: ·)) := by
  refine takes.in_front ('u' :: (digits ++ '\\' :: 'u' :: more)) fun fuel rest tail => ?_
  rw [List.cons_append, List.cons_append, List.append_assoc, List.cons_append, List.cons_append,
    readString?, read]
  simp [leading, readSecond, trailing, tail]

/-- A string that is read is taken. -/
theorem takes_of_readString? (read : readString? fuel cs = some (text, rest)) :
    ∃ used, cs = used ++ rest ∧ Takes readString? used text := by
  fun_induction readString? fuel cs generalizing text rest with
  | case1 => cases read
  | case2 => cases read
  | case3 =>
      cases read
      exact ⟨['"'], rfl, takes_quote⟩
  | case4 fuel cs ih =>
      obtain ⟨⟨unit, behind⟩, found, body⟩ := Option.bind_eq_some_iff.mp read
      obtain ⟨digits, rfl, unitRead⟩ := exists_unit found
      dsimp only at body
      split at body
      case isFalse single =>
        obtain ⟨⟨text, rest⟩, tail, same⟩ := Option.bind_eq_some_iff.mp body
        cases same
        obtain ⟨used, rfl, takes⟩ := ih _ tail
        exact ⟨_, by simp, takes.single unitRead (Bool.eq_false_iff.mpr single)⟩
      case isTrue leading =>
        split at body
        case h_1 more =>
          obtain ⟨⟨second, after⟩, foundSecond, body⟩ := Option.bind_eq_some_iff.mp body
          dsimp only at body
          split at body
          case isTrue trailing =>
            obtain ⟨⟨text, rest⟩, tail, same⟩ := Option.bind_eq_some_iff.mp body
            cases same
            obtain ⟨more, rfl, secondRead⟩ := exists_unit foundSecond
            obtain ⟨used, rfl, takes⟩ := ih _ tail
            exact ⟨_, by simp, takes.pair unitRead leading secondRead trailing⟩
          case isFalse other =>
            obtain ⟨⟨text, rest⟩, tail, same⟩ := Option.bind_eq_some_iff.mp body
            cases same
            obtain ⟨used, cut, takes⟩ := ih _ tail
            have alone : ClosesNoPair (used ++ rest) := by
              rw [← cut]
              intro more' same
              cases same
              exact ⟨second, after, foundSecond, Bool.eq_false_iff.mpr other⟩
            exact ⟨'\\' :: 'u' :: digits ++ used, by simp [cut], takes.half unitRead leading alone⟩
        case h_2 other =>
          obtain ⟨⟨text, rest⟩, tail, same⟩ := Option.bind_eq_some_iff.mp body
          cases same
          obtain ⟨used, rfl, takes⟩ := ih _ tail
          exact ⟨_, by simp, takes.half unitRead leading fun more same => absurd same (other more)⟩
  | case5 fuel letter cs other ih =>
      obtain ⟨c, known, body⟩ := Option.bind_eq_some_iff.mp read
      obtain ⟨⟨text, rest⟩, tail, same⟩ := Option.bind_eq_some_iff.mp body
      cases same
      obtain ⟨used, rfl, takes⟩ := ih tail
      exact ⟨_, rfl, takes.short known⟩
  | case6 => cases read
  | case7 fuel c cs quote unit escape plain ih =>
      obtain ⟨⟨text, rest⟩, tail, same⟩ := Option.bind_eq_some_iff.mp read
      cases same
      obtain ⟨used, rfl, takes⟩ := ih tail
      exact ⟨_, rfl, takes.plain quote plain⟩

end Strings

section Numbers

variable {cs rest used : List Char}

/-- The digits in front of a text are cut off. -/
theorem exists_span (cs : List Char) :
    ∃ digits rest, cs.span isDigit = (digits, rest) ∧ cs = digits ++ rest ∧
      ∀ c ∈ digits, isDigit c = true :=
  ⟨cs.takeWhile isDigit, cs.dropWhile isDigit, List.span_eq_takeWhile_dropWhile _ _,
    List.takeWhile_append_dropWhile.symm, fun _ => List.mem_takeWhile_imp⟩

/-- A fraction is read up to its last digit. -/
theorem exists_fraction {fraction : Option (List Char)}
    (read : readFraction? cs = some (fraction, rest)) :
    ∃ used, cs = used ++ rest ∧ (∀ c ∈ used.head?, c = '.') ∧
      ∀ other, EndsDigits other → other.head? ≠ some '.' →
        readFraction? (used ++ other) = some (fraction, other) := by
  unfold readFraction? at read
  split at read
  case h_1 behind =>
    obtain ⟨digits, after, cut, rfl, all⟩ := exists_span behind
    rw [cut] at read
    cases digits with
    | nil => cases read
    | cons d digits =>
        cases read
        refine ⟨'.' :: d :: digits, rfl, by simp, fun other ends _ => ?_⟩
        rw [List.cons_append, readFraction?, span_append all ends]
  case h_2 noPoint =>
    cases read
    refine ⟨[], rfl, by simp, fun other _ noPoint => ?_⟩
    unfold readFraction?
    split
    case h_1 same => exact absurd (congrArg List.head? same) noPoint
    case h_2 => rfl

/-- The value of an exponent behind its sign. -/
def exponentValue? (negative : Bool) (body : List Char) : Option (Option Int × List Char) :=
  match body.span isDigit with
  | ([], _) => none
  | (digits, rest) =>
    (Text.readDigits? 10 digits).map fun value =>
      (some (if negative then -(value : Int) else value), rest)

/-- The value of an exponent is read up to its last digit. -/
theorem exists_exponentValue {negative : Bool} {exponent : Option Int}
    (read : exponentValue? negative cs = some (exponent, rest)) :
    ∃ d digits, cs = d :: digits ++ rest ∧ isDigit d = true ∧
      ∀ other, EndsDigits other →
        exponentValue? negative (d :: digits ++ other) = some (exponent, other) := by
  obtain ⟨digits, after, cut, rfl, all⟩ := exists_span cs
  rw [exponentValue?, cut] at read
  cases digits with
  | nil => cases read
  | cons d digits =>
      obtain ⟨value, known, same⟩ := Option.map_eq_some_iff.mp read
      cases same
      refine ⟨d, digits, rfl, all d List.mem_cons_self, fun other ends => ?_⟩
      rw [exponentValue?, span_append all ends]
      exact Option.map_eq_some_iff.mpr ⟨value, known, rfl⟩

/-- The sign of an exponent and the text behind it. -/
def exponentSign : List Char → Bool × List Char
  | '-' :: body => (true, body)
  | '+' :: body => (false, body)
  | body => (false, body)

/-- Behind its mark and its sign an exponent is read as its value. -/
theorem readExponent?_mark {mark : Char} (isMark : mark = 'e' ∨ mark = 'E') :
    readExponent? (mark :: cs) = exponentValue? (exponentSign cs).1 (exponentSign cs).2 := by
  rcases isMark with rfl | rfl <;> rfl

/-- A sign is known from what stands in front of the first digit. -/
theorem exists_sign (cs : List Char) :
    ∃ sign, cs = sign ++ (exponentSign cs).2 ∧
      ∀ d digits, isDigit d = true →
        exponentSign (sign ++ d :: digits) = ((exponentSign cs).1, d :: digits) := by
  unfold exponentSign
  split
  case h_1 => exact ⟨['-'], rfl, fun _ _ _ => rfl⟩
  case h_2 => exact ⟨['+'], rfl, fun _ _ _ => rfl⟩
  case h_3 =>
    refine ⟨[], rfl, fun d digits digit => ?_⟩
    rw [List.nil_append]
    split
    case h_1 same =>
      obtain ⟨rfl, -⟩ := List.cons.inj same
      cases digit
    case h_2 same =>
      obtain ⟨rfl, -⟩ := List.cons.inj same
      cases digit
    case h_3 => rfl

/-- A text without the mark of an exponent has none. -/
theorem readExponent?_none (noMark : ∀ c ∈ cs.head?, c ≠ 'e' ∧ c ≠ 'E') :
    readExponent? cs = some (none, cs) := by
  cases cs with
  | nil => rfl
  | cons c cs => exact if_neg (not_or.mpr (noMark c rfl))

/-- An exponent is read up to its last digit. -/
theorem exists_exponent {exponent : Option Int}
    (read : readExponent? cs = some (exponent, rest)) :
    ∃ used, cs = used ++ rest ∧ (∀ c ∈ used.head?, c = 'e' ∨ c = 'E') ∧
      ∀ other, EndsNumber other → readExponent? (used ++ other) = some (exponent, other) := by
  by_cases isMark : ∃ mark behind, cs = mark :: behind ∧ (mark = 'e' ∨ mark = 'E')
  · obtain ⟨mark, behind, rfl, isMark⟩ := isMark
    rw [readExponent?_mark isMark] at read
    obtain ⟨d, digits, cut, digit, value⟩ := exists_exponentValue read
    obtain ⟨sign, same, signed⟩ := exists_sign behind
    refine ⟨mark :: sign ++ d :: digits, by rw [same, cut]; simp, by simpa using isMark, ?_⟩
    intro other ends
    rw [List.append_assoc, List.cons_append, readExponent?_mark isMark, List.cons_append,
      signed _ _ digit]
    exact value other fun c first => (ends c first).1
  · have noMark : ∀ c ∈ cs.head?, c ≠ 'e' ∧ c ≠ 'E' := by
      intro c first
      obtain ⟨behind, rfl⟩ := List.head?_eq_some_iff.mp first
      exact not_or.mp fun mark => isMark ⟨c, behind, rfl, mark⟩
    rw [readExponent?_none noMark] at read
    cases read
    exact ⟨[], rfl, nofun, fun other ends => readExponent?_none fun c first => (ends c first).2.2⟩

/-- The value of a number behind its sign. -/
def readMagnitude? (negative : Bool) (body : List Char) : Option (Option Number × List Char) := do
  let (whole, rest) := body.span isDigit
  if whole = [] ∨ (whole.head? = some '0' ∧ 1 < whole.length) then none
  else
    let (fraction, rest) ← readFraction? rest
    let (exponent, rest) ← readExponent? rest
    pure (numberValue negative whole fraction exponent, rest)

/-- A minus sign makes a number negative. -/
theorem readNumber?_negative : readNumber? ('-' :: cs) = readMagnitude? true cs := rfl

/-- Without a minus sign a number is not negative. -/
theorem readNumber?_unsigned (unsigned : cs.head? ≠ some '-') :
    readNumber? cs = readMagnitude? false cs := by
  unfold readNumber?
  split
  next negative body same =>
    split at same
    · exact absurd rfl unsigned
    · cases same
      rfl

/-- A text starts as its first part does, or as its second part if the first is empty. -/
theorem starts_append {property : Char → Prop} (first : ∀ c ∈ used.head?, property c)
    (second : ∀ c ∈ rest.head?, property c) : ∀ c ∈ (used ++ rest).head?, property c := by
  intro c start
  rw [List.head?_append, Option.mem_def, Option.or_eq_some_iff] at start
  rcases start with start | ⟨-, start⟩
  · exact first c start
  · exact second c start

/-- The value of a number is read up to its last digit. -/
theorem exists_magnitude {negative : Bool} {value : Option Number}
    (read : readMagnitude? negative cs = some (value, rest)) :
    ∃ d used, cs = d :: used ++ rest ∧ isDigit d = true ∧
      ∀ other, EndsNumber other →
        readMagnitude? negative (d :: used ++ other) = some (value, other) := by
  obtain ⟨whole, behind, cut, rfl, all⟩ := exists_span cs
  rw [readMagnitude?, cut] at read
  obtain ⟨proper, read⟩ := Option.ite_none_left_eq_some.mp read
  obtain ⟨⟨fraction, behind⟩, foundFraction, read⟩ := Option.bind_eq_some_iff.mp read
  obtain ⟨⟨exponent, behind⟩, foundExponent, same⟩ := Option.bind_eq_some_iff.mp read
  cases same
  obtain ⟨point, rfl, startsPoint, fractionRead⟩ := exists_fraction foundFraction
  obtain ⟨mark, rfl, startsMark, exponentRead⟩ := exists_exponent foundExponent
  obtain ⟨d, digits, rfl⟩ := List.exists_cons_of_ne_nil (not_or.mp proper).1
  refine ⟨d, digits ++ (point ++ mark), by simp, all d List.mem_cons_self, fun other ends => ?_⟩
  -- The exponent starts with a letter and the fraction with a point, if they are there.
  have afterPoint : ∀ c ∈ (mark ++ other).head?, isDigit c = false ∧ c ≠ '.' :=
    starts_append (fun c first => by rcases startsMark c first with rfl | rfl <;> decide)
      fun c first => ⟨(ends c first).1, (ends c first).2.1⟩
  have noDigit : EndsDigits (mark ++ other) := fun c first => (afterPoint c first).1
  have noPoint : (mark ++ other).head? ≠ some '.' := fun first => (afterPoint _ first).2 rfl
  have afterDigits : EndsDigits (point ++ (mark ++ other)) :=
    starts_append (fun c first => by rw [startsPoint c first]; rfl) noDigit
  have parted : d :: (digits ++ (point ++ mark)) ++ other =
      d :: digits ++ (point ++ (mark ++ other)) := by simp
  rw [parted, readMagnitude?, span_append all afterDigits]
  simp only [if_neg proper, fractionRead _ noDigit noPoint, exponentRead other ends,
    Option.bind_eq_bind, Option.bind_some]
  rfl

/-- A number is read up to its last digit. -/
theorem exists_number {value : Option Number} (read : readNumber? cs = some (value, rest)) :
    ∃ c used, cs = c :: used ++ rest ∧ (c = '-' ∨ isDigit c = true) ∧
      ∀ other, EndsNumber other → readNumber? (c :: used ++ other) = some (value, other) := by
  by_cases negative : cs.head? = some '-'
  · obtain ⟨body, rfl⟩ := List.head?_eq_some_iff.mp negative
    obtain ⟨d, used, rfl, -, again⟩ := exists_magnitude (readNumber?_negative.symm.trans read)
    exact ⟨'-', d :: used, rfl, .inl rfl, again⟩
  · rw [readNumber?_unsigned negative] at read
    obtain ⟨d, used, rfl, digit, again⟩ := exists_magnitude read
    refine ⟨d, used, rfl, .inr digit, fun other ends => ?_⟩
    have unsigned : (d :: used ++ other).head? ≠ some '-' := negative
    rw [readNumber?_unsigned unsigned, again other ends]

end Numbers

end MeshConsole.Json
