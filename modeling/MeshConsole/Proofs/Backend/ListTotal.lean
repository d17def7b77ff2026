/-
This file says which total a list of records has. The header of the reply announces it behind its
last slash. Without such a header the total is the number of records in the reply.
-/

import MeshConsole.Proofs.Backend.CallOutcome
import MeshConsole.Proofs.Text.Numeral
import MeshConsole.Proofs.Text.Splitting
import MeshConsole.Proofs.Text.Trimming

namespace MeshConsole

open Json Record Text

/-- A header announces a total. Behind its last slash stand the decimal digits of a number of 64
bits, perhaps with one plus sign in front and with blank characters around them. -/
def Announces (header : String) (total : Nat) : Prop :=
  ∃ before behind core, header.toList = before ++ '/' :: behind ∧ '/' ∉ behind ∧
    IsTrimmed behind core ∧ Denotes 10 core total ∧ total < UInt64.size

/-- The total of a list is the announced one. Where none is announced, it is the number of the
records. -/
def IsTotal (header : Option String) (records total : Nat) : Prop :=
  (∃ text ∈ header, Announces text total) ∨
    (∀ text ∈ header, ∀ other, ¬ Announces text other) ∧ total = records

section Headers

/-- Exactly the announced total is read. -/
theorem contentRangeTotal?_eq_some_iff (header : String) (total : Nat) :
    contentRangeTotal? header = some total ↔ Announces header total := by
  unfold contentRangeTotal? Announces
  rw [Option.bind_eq_some_iff]
  constructor
  · rintro ⟨behind, found, read⟩
    obtain ⟨before, whole, last⟩ := afterLast?_eq_some_iff.mp found
    obtain ⟨bounded, denotes⟩ := (readNatural?_eq_some_iff ..).mp read
    exact ⟨before, behind, trim behind, whole, last, isTrimmed_trim behind, denotes, bounded⟩
  · rintro ⟨before, behind, core, whole, last, trimmed, denotes, bounded⟩
    refine ⟨behind, afterLast?_eq_some_iff.mpr ⟨before, whole, last⟩, ?_⟩
    rw [trim_eq_iff.mpr trimmed]
    exact (readNatural?_eq_some_iff ..).mpr ⟨bounded, denotes⟩

/-- The usual text of a number of 64 bits announces it behind any text and a slash. -/
theorem announces_toString (start : String) (total : UInt64) :
    Announces (start ++ "/" ++ toString total.toNat) total.toNat := by
  have numeral := numeral_decimal total.toNat
  have noDigit : ∀ place < 10, ¬ IsDigit 10 '/' place := by decide +kernel
  refine ⟨start.toList, decimal total.toNat, decimal total.toNat, ?_, ?_, ?_, .inl numeral,
    total.toNat_lt_size⟩
  · rw [String.toList_append, String.toList_append, toList_toString, List.append_assoc]
    rfl
  · intro slash
    obtain ⟨place, digit⟩ := numeral.isDigit_of_mem slash
    exact noDigit place digit.2 digit
  · have padded : IsPadded (decimal total.toNat) (decimal total.toNat) := ⟨[], [], by simp⟩
    exact padded.isTrimmed fun c member => numeral.isBlank_of_mem member

/-- The total of a list is read off its header or counted. -/
theorem getD_contentRangeTotal?_eq_iff (header : Option String) (records total : Nat) :
    (header.bind contentRangeTotal?).getD records = total ↔ IsTotal header records total := by
  unfold IsTotal
  simp only [← contentRangeTotal?_eq_some_iff]
  cases header with
  | none => simp [eq_comm]
  | some text =>
      cases read : contentRangeTotal? text with
      | none => simp [read, eq_comm]
      | some announced => simp [read]

end Headers

section Calls

/-- A task yields a value exactly if a successful reply arrives that stands for it. -/
theorem ClientTask.result_eq_ok_iff {α : Type} (task : ClientTask α) (client : Client)
    (browser : Browser) (value : α) :
    ((task.call client).run browser).result = .ok value ↔
      browser.Delivers (task.call client).request ∧ browser.received.ok = true ∧
        task.value? browser.received = some value := by
  have result : ((task.call client).run browser).result =
      ((task.call client).finish (browser.exchange (task.call client).request).outcome).1 := rfl
  rcases browser.exchange_cases (task.call client).request with
    ⟨thrown, unbuilt, exchanged⟩ | ⟨built, windowless, exchanged⟩ |
    ⟨thrown, sends, lost, exchanged⟩ | ⟨delivers, exchanged⟩ <;> rw [exchanged] at result
  · simp [result, Exchange.thrown, Call.finish, Browser.Delivers, Browser.Sends, unbuilt]
  · simp [result, Call.finish, Browser.Delivers, Browser.Sends, windowless]
  · simp [result, Exchange.thrown, Call.finish, Browser.Delivers, lost]
  · cases succeeded : browser.received.ok with
    | false => simp [result, Call.finish_refused _ succeeded]
    | true =>
        rw [result, task.finish_ok client succeeded]
        cases stands : task.value? browser.received <;> simp [delivers]

/-- A reply stands for a list exactly if its body holds the records, with the total of the list. -/
theorem ClientTask.value?_list_eq_some_iff {α : Type} (decode : Nat → Written → Option α)
    (collection : Collection) (wanted : ListRequest) (reply : Reply) (page : RecordPage α) :
    (ClientTask.list decode collection wanted).value? reply = some page ↔
      ofText? (list? decode) reply.body = some page.records ∧
        IsTotal reply.contentRange page.records.length page.total := by
  rw [value?, Option.map_eq_some_iff, ← getD_contentRangeTotal?_eq_iff]
  constructor
  · rintro ⟨records, decoded, rfl⟩
    exact ⟨decoded, rfl⟩
  · rintro ⟨decoded, total⟩
    exact ⟨page.records, decoded, by rw [total]⟩

end Calls

/-- A header gives exactly the total that it announces, among them every number of 64 bits in
decimal digits behind any text and a slash. A call for a list succeeds exactly if its reply arrives
as a success whose body holds the records, and then the total of the list is the announced one or
else the number of the records. -/
theorem list_totals :
    (∀ header total, contentRangeTotal? header = some total ↔ Announces header total) ∧
      (∀ (start : String) (total : UInt64),
        contentRangeTotal? (start ++ "/" ++ toString total.toNat) = some total.toNat) ∧
      ∀ {α : Type} (client : Client) (decode : Nat → Written → Option α) (collection : Collection)
        (wanted : ListRequest) (browser : Browser) (page : RecordPage α),
        ((client.list decode collection wanted).run browser).result = .ok page ↔
          browser.Delivers (client.list decode collection wanted).request ∧
            browser.received.ok = true ∧
            ofText? (list? decode) browser.received.body = some page.records ∧
            IsTotal browser.received.contentRange page.records.length page.total := by
  refine ⟨contentRangeTotal?_eq_some_iff, ?_, ?_⟩
  · intro start total
    exact (contentRangeTotal?_eq_some_iff ..).mpr (announces_toString start total)
  · intro α client decode collection wanted browser page
    have result := (ClientTask.list decode collection wanted).result_eq_ok_iff client browser page
    rw [ClientTask.value?_list_eq_some_iff] at result
    exact result

/-- Only the last slash counts, and blank characters and one plus sign are read over. -/
example : contentRangeTotal? "items 0/24/\t+319\u00a0" = some 319 := by decide

end MeshConsole
