/-
This file says what the calls for single records request, and relates the keys of records to the
addresses that are requested for them. The main statement says for which keys an address names the
record and nothing else.
-/

import Mathlib.Data.List.TakeWhile
import MeshConsole.Backend.Client
import MeshConsole.Proofs.Json.WholeNumber
import MeshConsole.Proofs.Text.FormDecoding

namespace MeshConsole

open Json Record Text

/-- A segment of a path ends at a slash, and the path ends at a query or a fragment. -/
def EndsSegment (c : Char) : Prop := c = '/' ∨ c = '?' ∨ c = '#'

instance (c : Char) : Decidable (EndsSegment c) := inferInstanceAs (Decidable (_ ∨ _))

/-- No character of a segment ends it. -/
def IsSegment (cs : List Char) : Prop := ∀ c ∈ cs, ¬ EndsSegment c

instance (cs : List Char) : Decidable (IsSegment cs) :=
  List.decidableBAll (fun c => ¬ EndsSegment c) cs

/-- The address is that of the collection, a slash, and one segment that stands for the key. -/
def IsRecordAddress (collectionUrl key url : String) : Prop :=
  ∃ segment : List Char, url = collectionUrl ++ "/" ++ String.ofList segment ∧
    IsSegment segment ∧ decodePercent? segment = some key

/-- Somewhere a percent sign stands before two hexadecimal digits. -/
def HasEscape (cs : List Char) : Prop :=
  ∃ high low byte, ['%', high, low] <:+: cs ∧ readDigits? 16 [high, low] = some byte

/-- The key is one segment as it stands, and decoding leaves it as it is. -/
structure IsPlainKey (key : String) : Prop where
  whole : IsSegment key.toList
  noEscape : ¬ HasEscape key.toList

/-- The segment stands for one dot or two. -/
def IsDots (segment : List Char) : Prop :=
  percentBytes segment = [46] ∨ percentBytes segment = [46, 46]

instance (segment : List Char) : Decidable (IsDots segment) := inferInstanceAs (Decidable (_ ∨ _))

/-- Two dots lead one segment up but not above the root, one dot leads nowhere, and every other
segment leads down. -/
def walk (above : List (List Char)) (segment : List Char) : List (List Char) :=
  if percentBytes segment = [46] then above
  else if percentBytes segment = [46, 46] then above.take 1 ++ (above.drop 1).dropLast
  else above ++ [segment]

/-- The segments of the path of an address, once its dots are followed. Dots at the end leave an
empty segment. -/
def requestedSegments (url : String) : List (List Char) :=
  let parts := splitAt '/' (url.toList.takeWhile fun c => c ≠ '?' ∧ c ≠ '#')
  parts.foldl walk [] ++ if ∃ part ∈ parts.getLast?, IsDots part then [[]] else []

/-- The segments above all collections. -/
def Client.root (client : Client) : List (List Char) :=
  (splitAt '/' client.base.toList).foldl walk []

/-- The root has neither a query nor a fragment. -/
def Client.HasPathOnly (client : Client) : Prop := ∀ c ∈ client.base.toList, c ≠ '?' ∧ c ≠ '#'

instance (client : Client) : Decidable client.HasPathOnly :=
  List.decidableBAll (fun c => c ≠ '?' ∧ c ≠ '#') client.base.toList

section Escapes

/-- An escape is at the front or behind the first character. -/
theorem hasEscape_cons (c : Char) (rest : List Char) :
    HasEscape (c :: rest) ↔
      (∃ high low byte more, c = '%' ∧ rest = high :: low :: more ∧
        readDigits? 16 [high, low] = some byte) ∨ HasEscape rest := by
  constructor
  · rintro ⟨high, low, byte, inside, digits⟩
    rcases List.infix_cons_iff.mp inside with ⟨more, same⟩ | behind
    · obtain ⟨percent, behind⟩ := List.cons.inj same
      exact .inl ⟨high, low, byte, more, percent.symm, behind.symm, digits⟩
    · exact .inr ⟨high, low, byte, behind, digits⟩
  · rintro (⟨high, low, byte, more, rfl, rfl, digits⟩ | ⟨high, low, byte, inside, digits⟩)
    · exact ⟨high, low, byte, (List.prefix_append _ more).isInfix, digits⟩
    · exact ⟨high, low, byte, inside.trans (List.suffix_cons c rest).isInfix, digits⟩

/-- Percent signs never stand for more bytes than they have. -/
theorem length_percentBytes_le (cs : List Char) :
    (percentBytes cs).length ≤ (cs.flatMap String.utf8EncodeChar).length := by
  fun_induction percentBytes cs with
  | case1 high low rest byte digits ih =>
      simp only [List.flatMap_cons, List.length_append, List.length_cons] at ih ⊢
      have percent : (String.utf8EncodeChar '%').length = 1 := by decide
      omega
  | case2 high low rest digits ih =>
      rw [List.flatMap_cons, List.length_append, List.length_cons]
      have percent : (String.utf8EncodeChar '%').length = 1 := by decide
      omega
  | case3 c rest other ih =>
      rw [List.flatMap_cons, List.length_append, List.length_append]
      omega
  | case4 => exact Nat.le_refl _

/-- A text stands for its own bytes exactly if it has no escape. -/
theorem percentBytes_eq_iff (cs : List Char) :
    percentBytes cs = cs.flatMap String.utf8EncodeChar ↔ ¬ HasEscape cs := by
  fun_induction percentBytes cs with
  | case1 high low rest byte digits ih =>
      -- An escape makes the bytes fewer: three characters become one byte.
      have escape : HasEscape ('%' :: high :: low :: rest) :=
        (hasEscape_cons _ _).mpr (.inl ⟨high, low, byte, rest, rfl, rfl, digits⟩)
      refine iff_of_false ?_ (not_not_intro escape)
      intro same
      have length := congrArg List.length same
      simp only [List.flatMap_cons, List.length_append, List.length_cons,
        String.length_utf8EncodeChar] at length
      have shorter := length_percentBytes_le rest
      have percent := Char.utf8Size_pos '%'
      have some := Char.utf8Size_pos high
      omega
  | case2 high low rest digits ih =>
      have behind : HasEscape ('%' :: high :: low :: rest) ↔ HasEscape (high :: low :: rest) := by
        refine (hasEscape_cons _ _).trans (or_iff_right ?_)
        rintro ⟨_, _, byte, _, -, ⟨⟩, found⟩
        exact Option.some_ne_none byte (found.symm.trans digits)
      have percent : String.utf8EncodeChar '%' = [37] := by decide
      rw [behind, ← ih, List.flatMap_cons, percent, List.singleton_append, List.cons_inj_right]
  | case3 c rest other ih =>
      have behind : HasEscape (c :: rest) ↔ HasEscape rest := by
        refine (hasEscape_cons _ _).trans (or_iff_right ?_)
        rintro ⟨high, low, byte, more, percent, same, -⟩
        exact other high low more percent same
      rw [behind, ← ih, List.flatMap_cons, List.append_cancel_left_eq]
  | case4 =>
      refine iff_of_true rfl ?_
      rintro ⟨high, low, byte, inside, -⟩
      exact absurd (List.infix_nil.mp inside) (List.cons_ne_nil _ _)

/-- A key without an escape stands for itself. -/
theorem decodePercent?_self (key : String) :
    decodePercent? key.toList = some key ↔ ¬ HasEscape key.toList := by
  rw [← percentBytes_eq_iff, ← decodePercent?_eq_some_iff, String.ofList_toList]

end Escapes

section Segments

variable {above parts : List (List Char)} {segment : List Char}

/-- A segment that is no dots leads down. -/
theorem walk_of_not_dots (above : List (List Char)) (noDots : ¬ IsDots segment) :
    walk above segment = above ++ [segment] := by
  obtain ⟨single, double⟩ := not_or.mp noDots
  rw [walk, if_neg single, if_neg double]

/-- Every segment that is left was there before or is the last one, and is no dots. -/
theorem mem_walk {kept : List Char} (member : kept ∈ walk above segment) :
    kept ∈ above ∨ kept = segment ∧ ¬ IsDots segment := by
  rw [walk] at member
  split at member
  case isTrue => exact .inl member
  case isFalse single =>
    split at member
    case isTrue =>
      rcases List.mem_append.mp member with first | later
      · exact .inl (List.mem_of_mem_take first)
      · exact .inl (List.mem_of_mem_drop (List.dropLast_subset _ later))
    case isFalse double =>
      rcases List.mem_append.mp member with before | last
      · exact .inl before
      · exact .inr ⟨List.mem_singleton.mp last, not_or.mpr ⟨single, double⟩⟩

/-- The segments that are left after a walk are no dots, and each of them is a part. -/
theorem mem_foldl_walk {kept : List Char} (member : kept ∈ parts.foldl walk above) :
    kept ∈ above ∨ kept ∈ parts ∧ ¬ IsDots kept := by
  induction parts generalizing above with
  | nil => exact .inl member
  | cons part rest ih =>
      rcases ih member with reached | ⟨later, noDots⟩
      · rcases mem_walk reached with before | ⟨rfl, noDots⟩
        · exact .inl before
        · exact .inr ⟨List.mem_cons_self, noDots⟩
      · exact .inr ⟨List.mem_cons_of_mem part later, noDots⟩

/-- No segment of a path has a character that ends it, and none is dots. -/
theorem mem_requestedSegments {url : String} (member : segment ∈ requestedSegments url) :
    IsSegment segment ∧ ¬ IsDots segment := by
  rcases List.mem_append.mp member with walked | final
  · rcases mem_foldl_walk walked with before | ⟨part, noDots⟩
    · exact absurd before List.not_mem_nil
    · obtain ⟨noSlash, written⟩ := mem_splitAt part
      refine ⟨?_, noDots⟩
      intro c inside ends
      have kept := List.mem_takeWhile_imp (written c inside)
      rcases ends with rfl | rfl | rfl
      · exact noSlash inside
      · exact absurd kept (by decide)
      · exact absurd kept (by decide)
  · have empty : segment = [] := by
      split at final
      case isTrue => exact List.mem_singleton.mp final
      case isFalse => exact absurd final List.not_mem_nil
    rw [empty]
    exact ⟨List.forall_mem_nil _, by decide⟩

/-- The two last parts of an address are its two last segments if they are no dots. -/
theorem requestedSegments_append {before middle last : List Char}
    (pathOnly : ∀ c ∈ before, c ≠ '?' ∧ c ≠ '#')
    (middleWhole : IsSegment middle) (lastWhole : IsSegment last)
    (middleStays : ¬ IsDots middle) (lastStays : ¬ IsDots last) :
    requestedSegments (String.ofList (before ++ '/' :: middle ++ '/' :: last)) =
      (splitAt '/' before).foldl walk [] ++ [middle, last] := by
  have whole : (before ++ '/' :: middle ++ '/' :: last).takeWhile (fun c => c ≠ '?' ∧ c ≠ '#') =
      before ++ '/' :: middle ++ '/' :: last := by
    rw [List.takeWhile_eq_self_iff]
    intro c member
    simp only [List.mem_append, List.mem_cons] at member
    have inside {part : List Char} (whole : IsSegment part) (member : c ∈ part) :
        c ≠ '?' ∧ c ≠ '#' :=
      (not_or.mp (not_or.mp (whole c member)).2)
    refine decide_eq_true ?_
    rcases member with (before | rfl | middle) | rfl | last
    · exact pathOnly c before
    · decide
    · exact inside middleWhole middle
    · decide
    · exact inside lastWhole last
  have single {part : List Char} (whole : IsSegment part) : splitAt '/' part = [part] :=
    splitAt_of_not_mem fun member => whole '/' member (.inl rfl)
  have parts : splitAt '/' (before ++ '/' :: middle ++ '/' :: last) =
      splitAt '/' before ++ [middle] ++ [last] := by
    rw [splitAt_append, splitAt_append, single middleWhole, single lastWhole]
  rw [requestedSegments, String.toList_ofList, whole, parts]
  simp [walk_of_not_dots _ middleStays, walk_of_not_dots _ lastStays, lastStays]

end Segments

section Records

/-- The address of a record is that of its collection, a slash and the key as it stands. -/
theorem Client.recordUrl_eq (client : Client) (collection : Collection) (key : String) :
    client.recordUrl collection key = client.url collection.path ++ "/" ++ key := by
  have kept : withoutLeadingSlashes (collection.path ++ "/" ++ key) =
      withoutLeadingSlashes collection.path ++ "/" ++ key := by
    cases collection <;> simp [withoutLeadingSlashes, Collection.path, ← String.toList_inj]
  rw [recordUrl, url, url, kept]
  simp only [String.append_assoc]

/-- The address of a collection is the root, a slash and the path of the collection. -/
theorem Client.collectionUrl_eq (client : Client) (collection : Collection) :
    client.url collection.path = client.base ++ "/" ++ collection.path := by
  have kept : withoutLeadingSlashes collection.path = collection.path := by
    cases collection <;> decide
  rw [url, kept]

/-- A call that changes a record puts its text to the address of the record. -/
theorem Client.request_update {α : Type} (client : Client) (decode : Nat → Written → Option α)
    (collection : Collection) (key body : String) :
    (client.update decode collection key body).request =
      ⟨.put, client.base ++ "/" ++ collection.path ++ "/" ++ key, some body⟩ := by
  rw [← client.collectionUrl_eq, ← client.recordUrl_eq]
  rfl

/-- The path of a collection is one segment. -/
theorem Collection.path_segment (collection : Collection) :
    IsSegment collection.path.toList ∧ ¬ IsDots collection.path.toList := by
  cases collection <;> decide

/-- The address of a record names the record exactly if the key is plain. -/
theorem isRecordAddress_iff (client : Client) (collection : Collection) (key : String) :
    IsRecordAddress (client.url collection.path) key (client.recordUrl collection key) ↔
      IsPlainKey key := by
  rw [Client.recordUrl_eq]
  constructor
  · rintro ⟨segment, same, whole, decoded⟩
    have written : key.toList = segment := by
      rw [String.append_right_inj] at same
      rw [same, String.toList_ofList]
    subst written
    exact ⟨whole, (decodePercent?_self key).mp decoded⟩
  · rintro ⟨whole, noEscape⟩
    refine ⟨key.toList, ?_, whole, (decodePercent?_self key).mpr noEscape⟩
    rw [String.ofList_toList]

/-- The path of a record leads to its key below the collection exactly if the key is one segment
and no dots. -/
theorem requestedSegments_recordUrl {client : Client} (pathOnly : client.HasPathOnly)
    (collection : Collection) (key : String) :
    requestedSegments (client.recordUrl collection key) =
        client.root ++ [collection.path.toList, key.toList] ↔
      IsSegment key.toList ∧ ¬ IsDots key.toList := by
  constructor
  · intro leads
    exact mem_requestedSegments (by rw [leads]; simp)
  · rintro ⟨keyWhole, keyStays⟩
    obtain ⟨pathWhole, pathStays⟩ := collection.path_segment
    have text : client.recordUrl collection key = String.ofList
        (client.base.toList ++ '/' :: collection.path.toList ++ '/' :: key.toList) := by
      rw [client.recordUrl_eq, client.collectionUrl_eq, ← String.toList_inj]
      simp
    rw [text, requestedSegments_append pathOnly pathWhole keyWhole pathStays keyStays]
    rfl

/-- A whole number as an identifier gives a plain key. -/
theorem isPlainKey_integer (id : Int) : IsPlainKey (recordKey (.number (.integer id))) := by
  have written := mem_printInteger id
  have key : (recordKey (.number (.integer id))).toList = printInteger id := by
    simp [recordKey, Value.compact, print, printNumber]
  constructor
  · rw [key]
    rintro c member (rfl | rfl | rfl) <;> exact absurd (written _ member) (by decide)
  · rw [key]
    rintro ⟨high, low, byte, inside, -⟩
    exact absurd (written '%' (inside.subset List.mem_cons_self)) (by decide)

end Records

/-- The address that a call requests for a record names the record exactly if the key is plain. It
leads to the place of the key below the collection exactly if the key is one segment and no dots. -/
theorem recordCalls_address {α : Type} (client : Client) (decode : Nat → Written → Option α)
    (collection : Collection) (key body : String) :
    ∀ request ∈ [(client.one decode collection key).request,
        (client.update decode collection key body).request,
        (client.delete collection key).request],
      (IsRecordAddress (client.url collection.path) key request.url ↔ IsPlainKey key) ∧
        (client.HasPathOnly →
          (requestedSegments request.url = client.root ++ [collection.path.toList, key.toList] ↔
            IsSegment key.toList ∧ ¬ IsDots key.toList)) := by
  intro request member
  have address : request.url = client.recordUrl collection key := by
    simp only [List.mem_cons, List.not_mem_nil, or_false] at member
    rcases member with rfl | rfl | rfl <;> rfl
  rw [address]
  exact ⟨isRecordAddress_iff client collection key,
    fun pathOnly => requestedSegments_recordUrl pathOnly collection key⟩

/-- The path of a link with a plain key leads to the link. -/
theorem deleteLink_plainKey :
    (Client.rooted "/api/v1").HasPathOnly ∧
      requestedSegments ((Client.rooted "/api/v1").delete .links "1-2").request.url =
        ["".toList, "api".toList, "v1".toList, "links".toList, "1-2".toList] := by
  have pathOnly : (Client.rooted "/api/v1").HasPathOnly := by decide
  have leads := (recordCalls_address (Client.rooted "/api/v1") Link.decode? .links "1-2" ""
    _ (List.mem_of_getElem? (i := 2) rfl)).2 pathOnly
  exact ⟨pathOnly, leads.mpr (by decide)⟩

/-- A key with slashes and dots turns the deletion of a link into the deletion of a node. -/
theorem deleteLink_leadsToNode :
    recordKey (.text "../nodes/5") = "../nodes/5" ∧
      ¬ IsRecordAddress ((Client.rooted "/api/v1").url Collection.links.path) "../nodes/5"
          ((Client.rooted "/api/v1").delete .links "../nodes/5").request.url ∧
        requestedSegments ((Client.rooted "/api/v1").delete .links "../nodes/5").request.url =
          requestedSegments ((Client.rooted "/api/v1").delete .nodes "5").request.url := by
  refine ⟨rfl, ?_, by decide +kernel⟩
  intro named
  have plain := (isRecordAddress_iff (Client.rooted "/api/v1") .links "../nodes/5").mp named
  exact plain.whole '/' (by decide) (.inl rfl)

end MeshConsole
