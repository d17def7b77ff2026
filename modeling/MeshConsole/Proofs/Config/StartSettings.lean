/-
This file says with which settings the console starts. The main statement is that on every page the
settings are fit for use: each of them is the one that the page gives, or else its default, and all
requests go to addresses below the root.
-/

import Mathlib.Data.List.DropRight
import MeshConsole.Config
import MeshConsole.Proofs.Backend.CallOutcome

namespace MeshConsole

open Json Record

/-- A text does not end in a slash. -/
def EndsBare (text : String) : Prop := text.toList.getLast? ≠ some '/'

/-- A text is a root with any number of slashes behind it, and the root does not end in one. -/
def IsRootOf (root text : String) : Prop :=
  (∃ count, text.toList = root.toList ++ List.replicate count '/') ∧ EndsBare root

/-- An address is a root, one slash and a path that does not begin with another one. -/
def IsBelow (root address : String) : Prop :=
  ∃ path : String, address = root ++ "/" ++ path ∧ path.toList.head? ≠ some '/'

/-- A setting comes from the given value where this value counts, and else is the default. -/
def IsSettled {α β : Type} (given : Option α) (counts : α → β → Prop) (default setting : β) :
    Prop :=
  (∃ value, given = some value ∧ counts value setting) ∨
    (∀ value other, given = some value → ¬counts value other) ∧ setting = default

/-- Settings come from written ones and defaults, each from its own two. -/
structure WrittenConfig.Yields (written : WrittenConfig) (default config : Config) : Prop where
  /-- A root counts without the slashes at its end, unless it is blank. -/
  apiBase : IsSettled written.apiBase
    (fun text root => (∃ c ∈ text.toList, Text.isBlank c = false) ∧ IsRootOf root text)
    default.apiBase config.apiBase
  /-- A severity counts in any letter case. -/
  logLevel : IsSettled written.logLevel (fun name level => level.name = name.map Char.toUpper)
    default.logLevel config.logLevel
  /-- Every number of rows but zero counts. -/
  pageSize : IsSettled written.pageSize (fun size rows => 0 < size ∧ rows = size)
    default.pageSize config.pageSize

/-- Settings are fit for use. -/
structure Config.Normal (config : Config) : Prop where
  pageSize : 1 ≤ config.pageSize
  apiBase : EndsBare config.apiBase

/-- What holds of the settings that the console takes from a page. -/
structure StartsWith (page : HostPage) (config : Config) : Prop extends Config.Normal config where
  /-- The client takes the root as it is. -/
  client : Client.rooted config.apiBase = ⟨config.apiBase⟩
  /-- Every request goes to an address below the root. -/
  address : ∀ {α : Type} (task : ClientTask α),
    IsBelow config.apiBase (task.call (Client.rooted config.apiBase)).request.url
  /-- Without a text that is a record of settings, the defaults stay. -/
  default : page.configText?.bind (ofText? WrittenConfig.decode?) = none →
    config = Config.default page.path
  /-- A record of settings yields the settings. -/
  written : ∀ text written, page.configText? = some text →
    ofText? WrittenConfig.decode? text = some written →
      written.Yields (Config.default page.path) config

section Texts

/-- The characters of a text without the slashes at its end. -/
theorem toList_withoutTrailingSlashes (text : String) :
    (Text.withoutTrailingSlashes text).toList = text.toList.rdropWhile (· == '/') :=
  String.toList_ofList

/-- A text does not end in a slash exactly if there is no slash to drop. -/
theorem endsBare_iff {text : String} :
    EndsBare text ↔ Text.withoutTrailingSlashes text = text := by
  rw [← String.toList_inj, toList_withoutTrailingSlashes, List.rdropWhile_eq_self_iff]
  constructor
  · intro bare filled slash
    have last : text.toList.getLast filled = '/' := by simpa using slash
    exact bare (last ▸ List.getLast?_eq_some_getLast filled)
  · intro bare last
    have filled : text.toList ≠ [] := fun empty => by simp [empty] at last
    rw [List.getLast?_eq_some_getLast filled] at last
    exact bare filled (by simpa using last)

/-- A text without the slashes at its end is its root. -/
theorem isRootOf_withoutTrailingSlashes (text : String) :
    IsRootOf (Text.withoutTrailingSlashes text) text := by
  have slashes : text.toList.rtakeWhile (· == '/') =
      List.replicate (text.toList.rtakeWhile (· == '/')).length '/' :=
    List.eq_replicate_of_mem fun c member => by simpa using List.mem_rtakeWhile_imp member
  refine ⟨⟨(text.toList.rtakeWhile (· == '/')).length, ?_⟩, endsBare_iff.mpr ?_⟩
  · rw [toList_withoutTrailingSlashes, ← slashes, List.rdropWhile_append_rtakeWhile]
  · rw [← String.toList_inj]
    simp only [toList_withoutTrailingSlashes, List.rdropWhile_idempotent]

/-- A text is blank when trimming leaves nothing of it. -/
theorem isEmpty_trimmed_iff {text : String} :
    (Text.trimmed text).isEmpty = true ↔ ∀ c ∈ text.toList, Text.isBlank c = true := by
  have trimmed : (Text.trimmed text).toList =
      (text.toList.dropWhile Text.isBlank).rdropWhile Text.isBlank := String.toList_ofList
  rw [String.isEmpty_iff, ← String.toList_eq_nil_iff, trimmed, List.rdropWhile_eq_nil_iff]
  refine ⟨fun rest c member => ?_, fun all c member => all c (List.dropWhile_subset _ member)⟩
  -- The characters at the start are blank, and so is every other one.
  rw [← List.takeWhile_append_dropWhile (p := Text.isBlank) (l := text.toList)] at member
  exact (List.mem_append.mp member).elim List.mem_takeWhile_imp (rest c)

/-- A severity is read from its name in any letter case, and from nothing else. -/
theorem LogLevel.ofName?_eq_some_iff {name : String} {level : LogLevel} :
    LogLevel.ofName? name = some level ↔ level.name = name.map Char.toUpper := by
  constructor
  · intro found
    simpa using List.find?_some found
  · intro named
    rw [ofName?, ← named]
    cases level <;> decide

end Texts

section Settings

variable {α β : Type} {counts : α → β → Prop} {default setting : β}

/-- A value that counts settles its setting. -/
theorem IsSettled.counted {value : α} (counted : counts value setting) :
    IsSettled (some value) counts default setting :=
  .inl ⟨value, rfl, counted⟩

/-- A setting without a value is the default. -/
theorem IsSettled.missing : IsSettled none counts default default :=
  .inr ⟨nofun, rfl⟩

/-- A value that does not count leaves the default. -/
theorem IsSettled.refused {value : α} (refused : ∀ other, ¬counts value other) :
    IsSettled (some value) counts default default :=
  .inr ⟨fun _ other same => Option.some.inj same ▸ refused other, rfl⟩

/-- What holds of the default and of every value that counts holds of the setting. -/
theorem IsSettled.keeps {given : Option α} {holds : β → Prop}
    (settled : IsSettled given counts default setting) (byDefault : holds default)
    (byValue : ∀ value, counts value setting → holds setting) : holds setting := by
  obtain ⟨value, -, counted⟩ | ⟨-, rfl⟩ := settled
  · exact byValue value counted
  · exact byDefault

/-- Written settings yield what they resolve to. -/
theorem WrittenConfig.yields_resolve (written : WrittenConfig) (pathname : String) :
    written.Yields (Config.default pathname) (written.resolve pathname) := by
  obtain ⟨apiBase, logLevel, pageSize⟩ := written
  constructor
  case apiBase =>
    cases apiBase with
    | none => exact .missing
    | some text =>
        by_cases blank : (Text.trimmed text).isEmpty = true
        · simp only [resolve, if_pos blank]
          refine .refused fun root ⟨⟨c, member, visible⟩, _⟩ => ?_
          exact Bool.false_ne_true (visible ▸ isEmpty_trimmed_iff.mp blank c member)
        · simp only [resolve, if_neg blank]
          refine .counted ⟨?_, isRootOf_withoutTrailingSlashes text⟩
          simpa using mt isEmpty_trimmed_iff.mpr blank
  case logLevel =>
    cases logLevel with
    | none => exact .missing
    | some name =>
        cases read : LogLevel.ofName? name with
        | none =>
            simp only [resolve, Option.bind_some, read, Option.getD_none]
            refine .refused fun level named => ?_
            exact Option.some_ne_none _ ((LogLevel.ofName?_eq_some_iff.mpr named).symm.trans read)
        | some level =>
            simp only [resolve, Option.bind_some, read, Option.getD_some]
            exact .counted (LogLevel.ofName?_eq_some_iff.mp read)
  case pageSize =>
    cases pageSize with
    | none => exact .missing
    | some size =>
        by_cases positive : 0 < size
        · simp only [resolve, if_pos positive]
          exact .counted ⟨positive, rfl⟩
        · simp only [resolve, if_neg positive]
          exact .refused fun _ counts => positive counts.1

end Settings

section Addresses

/-- The address of a path stands below the root, whatever else follows that is no slash. -/
theorem Client.isBelow_url (client : Client) (path rest : String)
    (apart : rest.toList.head? ≠ some '/') : IsBelow client.base (client.url path ++ rest) := by
  refine ⟨Text.withoutLeadingSlashes path ++ rest, by simp only [url, String.append_assoc], ?_⟩
  have bare := List.head?_dropWhile_not (· == '/') path.toList
  rw [String.toList_append, Text.withoutLeadingSlashes, String.toList_ofList, List.head?_append]
  cases first : (path.toList.dropWhile (· == '/')).head? with
  | none => exact apart
  | some c =>
      rw [first] at bare
      intro slash
      obtain rfl : c = '/' := Option.some.inj slash
      cases bare

/-- Every task of a client goes to an address below its root. -/
theorem ClientTask.isBelow_request {α : Type} (task : ClientTask α) (client : Client) :
    IsBelow client.base (task.call client).request.url := by
  have below (path : String) : IsBelow client.base (client.url path) := by
    rw [← String.append_empty (s := client.url path)]
    exact client.isBelow_url path "" (by simp)
  cases task with
  | list decode collection wanted =>
      have query := client.isBelow_url collection.path ("?" ++ wanted.query) (by simp)
      rwa [← String.append_assoc] at query
  | one | create | update | delete | hello | reboot => exact below _

end Addresses

/-- The settings with which the console starts on a page. -/
theorem Config.load_eq (page : HostPage) :
    (Config.load page).1 =
      (page.configText?.bind (ofText? WrittenConfig.decode?)).elim (Config.default page.path)
        (·.resolve page.path) := by
  unfold load parse?
  cases page.configText? with
  | none => rfl
  | some text =>
      simp only [Option.bind_some]
      cases ofText? WrittenConfig.decode? text <;> rfl

/-- The defaults are fit for use. -/
theorem Config.normal_default (pathname : String) : (Config.default pathname).Normal where
  pageSize := (by decide : 1 ≤ 25)
  apiBase := by
    unfold EndsBare Config.default defaultApiBase
    rw [String.toList_append, List.getLast?_append_of_ne_nil _ (by decide)]
    decide

/-- On every page the settings are fit for use. -/
theorem Config.normal_load (page : HostPage) : (Config.load page).1.Normal := by
  have byDefault := Config.normal_default page.path
  rw [Config.load_eq]
  cases page.configText?.bind (ofText? WrittenConfig.decode?) with
  | none => exact byDefault
  | some written =>
      have yields := written.yields_resolve page.path
      exact ⟨yields.pageSize.keeps byDefault.pageSize fun _ counted => counted.2 ▸ counted.1,
        yields.apiBase.keeps byDefault.apiBase fun _ counted => counted.2.2⟩

/-- On every page the console starts with a positive number of rows and a root without a slash at
its end, and with settings that are those of the page or else the defaults. -/
theorem config_startsWith (page : HostPage) : StartsWith page (Config.load page).1 := by
  have normal := Config.normal_load page
  have bare := normal.apiBase
  have client : Client.rooted (Config.load page).1.apiBase = ⟨(Config.load page).1.apiBase⟩ :=
    congrArg Client.mk (endsBare_iff.mp bare)
  constructor
  case toNormal => exact normal
  case client => exact client
  case address =>
    intro α task
    rw [client]
    exact task.isBelow_request ⟨(Config.load page).1.apiBase⟩
  case default =>
    intro missing
    rw [Config.load_eq, missing, Option.elim_none]
  case written =>
    intro text written found read
    rw [Config.load_eq, found, Option.bind_some, read, Option.elim_some]
    exact written.yields_resolve page.path

/-- A root of slashes alone is not blank. It leaves no root at all, while the unknown severity and
the missing number of rows leave the defaults. -/
example : (Config.load
    { pathname := some "/ui/"
      elements := [⟨"app-config", true,
        some "\x7b\"log_level\": \"loud\", \"api_base\": \"//\"\x7d"⟩] }).1 =
      { Config.default "/ui/" with apiBase := "" } := by decide +kernel

end MeshConsole
