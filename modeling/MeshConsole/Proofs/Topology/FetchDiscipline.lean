/-
This file holds what an assembler asks for and publishes over a whole run: one request for nodes,
at most one for links and at most one picture for every activation. The tickets of a run may be
stale, replayed or carried by the wrong kind of reply.
-/

import Mathlib.Data.List.Pairwise
import MeshConsole.Proofs.Topology.AssemblerAgreement

namespace MeshConsole

/-- One input of a run with what was handed out for it. -/
structure Moment where
  /-- The activation before the input. -/
  before : Cycle
  input : AssemblerInput
  handout : Handout

namespace Moment

/-- The activation that the input opens or belongs to. -/
def cycle (moment : Moment) : Cycle := moment.before.next moment.input

/-- The network that the input activates. -/
def opens? (moment : Moment) : Option NetworkKind :=
  moment.input.opens? moment.before.variant?

/-- The input leads to a request for a half of the picture. -/
def Asks (moment : Moment) (half : Half) : Prop :=
  ∃ fetch, moment.handout.fetch? = some fetch ∧ fetch.half = half

/-- The input leads to a picture. -/
def Publishes (moment : Moment) : Prop := moment.handout.picture? ≠ none

end Moment

/-- The moments of a run from a state and an account of the current activation. -/
def Assembler.moments (assembler : Assembler) (cycle : Cycle) : List AssemblerInput → List Moment
  | [] => []
  | input :: rest =>
    let answer := assembler.feed input
    ⟨cycle, input, answer.result⟩ :: answer.state.moments (cycle.next input) rest

/-- The moments of the run of a new assembler. -/
def AssemblerInput.history (inputs : List AssemblerInput) : List Moment :=
  Assembler.moments {} {} inputs

/-- A later account of the activations. As long as the activation is the same, its nodes and its
picture do not go away. -/
structure Cycle.Precedes (earlier later : Cycle) : Prop where
  number : earlier.number ≤ later.number
  variant : earlier.number = later.number → later.variant? = earlier.variant?
  nodes : earlier.number = later.number → earlier.nodes? ≠ none → later.nodes? ≠ none
  picture : earlier.number = later.number → earlier.picture? ≠ none → later.picture? ≠ none

theorem Cycle.Precedes.refl (cycle : Cycle) : cycle.Precedes cycle :=
  ⟨Nat.le_refl _, fun _ => rfl, fun _ present => present, fun _ present => present⟩

theorem Cycle.Precedes.trans {first second third : Cycle} (early : first.Precedes second)
    (late : second.Precedes third) : first.Precedes third := by
  have squeeze (same : first.number = third.number) :
      first.number = second.number ∧ second.number = third.number := by
    have := early.number
    have := late.number
    omega
  refine ⟨early.number.trans late.number, fun same => ?_, fun same present => ?_,
    fun same present => ?_⟩
  · exact (late.variant (squeeze same).2).trans (early.variant (squeeze same).1)
  · exact late.nodes (squeeze same).2 (early.nodes (squeeze same).1 present)
  · exact late.picture (squeeze same).2 (early.picture (squeeze same).1 present)

/-- An input never takes nodes or a picture away from the activation that it belongs to. -/
theorem Cycle.precedes_next (cycle : Cycle) (input : AssemblerInput) :
    cycle.Precedes (cycle.next input) := by
  cases opens : input.opens? cycle.variant? with
  | some variant =>
      rw [next_opens opens]
      have later : cycle.number ≠ cycle.number + 1 := by omega
      exact ⟨Nat.le_succ _, fun same => absurd same later, fun same => absurd same later,
        fun same => absurd same later⟩
  | none =>
      have nodes (present : cycle.nodes? ≠ none) : (cycle.next input).nodes? ≠ none := by
        simp [nodes?_next opens, present]
      refine ⟨?_, fun _ => ?_, fun _ => nodes, fun _ present => ?_⟩
      · rw [next_stays opens]
      · rw [next_stays opens]
      · have complete : cycle.links? ≠ none := present ∘ (picture?_eq_none_iff cycle).mpr
        have waiting : cycle.nodes? ≠ none := complete ∘ links?_eq_none
        rw [ne_eq, picture?_eq_none_iff, links?_next opens, if_neg waiting, Option.or_eq_none_iff]
        exact fun missing => complete missing.1

/-- All moments of a run come after its start. -/
theorem Assembler.precedes_of_mem_moments {assembler : Assembler} {cycle : Cycle}
    {inputs : List AssemblerInput} {moment : Moment}
    (member : moment ∈ assembler.moments cycle inputs) : cycle.Precedes moment.before := by
  induction inputs generalizing assembler cycle with
  | nil => simp [moments] at member
  | cons input rest ih =>
      rcases List.mem_cons.mp member with rfl | member
      · exact .refl cycle
      · exact (cycle.precedes_next input).trans (ih member)

/-- The moments of a run follow each other. -/
theorem Assembler.moments_pairwise (assembler : Assembler) (cycle : Cycle)
    (inputs : List AssemblerInput) :
    (assembler.moments cycle inputs).Pairwise fun earlier later =>
      earlier.cycle.Precedes later.before := by
  induction inputs generalizing assembler cycle with
  | nil => exact .nil
  | cons input rest ih =>
      exact List.pairwise_cons.mpr ⟨fun _ member => precedes_of_mem_moments member, ih _ _⟩

/-- All that a run hands out agrees with the account of its inputs. -/
theorem Assembler.Follows.handout_of_mem_moments {assembler : Assembler} {cycle : Cycle}
    (agrees : assembler.Follows cycle) {inputs : List AssemblerInput} {moment : Moment}
    (member : moment ∈ assembler.moments cycle inputs) :
    moment.handout = moment.before.handout moment.input := by
  induction inputs generalizing assembler cycle with
  | nil => simp [moments] at member
  | cons input rest ih =>
      rcases List.mem_cons.mp member with rfl | member
      · exact (agrees.feed input).result
      · exact ih (agrees.feed input).state member

/-- First nodes come from a successful reply to a request for nodes of the current activation. -/
theorem Cycle.input_of_first_nodes {cycle : Cycle} {input : AssemblerInput}
    (stays : input.opens? cycle.variant? = none) (missing : cycle.nodes? = none)
    (arrived : (cycle.next input).nodes? ≠ none) :
    ∃ ticket nodes, cycle.ticket? = some ticket ∧ input = .nodes ticket (.ok nodes) := by
  rw [nodes?_next stays, missing, Option.none_or] at arrived
  obtain ⟨nodes, arrived⟩ := Option.ne_none_iff_exists'.mp arrived
  obtain ⟨ticket, current, brings⟩ := Option.bind_eq_some_iff.mp arrived
  unfold AssemblerInput.okNodes? at brings
  split at brings
  · split at brings
    case isTrue same => exact ⟨ticket, _, current, by rw [← same]⟩
    case isFalse => cases brings
  · cases brings

namespace Moment

variable {moment : Moment}

/-- A request carries the ticket of the activation and goes to a collection of its network. -/
theorem fetch_ticket (agrees : moment.handout = moment.before.handout moment.input)
    {fetch : Fetch} (asked : moment.handout.fetch? = some fetch) :
    moment.cycle.ticket? = some fetch.ticket ∧
      fetch.collection = fetch.ticket.variant.collection fetch.half := by
  rw [agrees] at asked
  unfold Cycle.handout at asked
  unfold cycle
  cases opens : moment.input.opens? moment.before.variant? with
  | some variant =>
      rw [opens] at asked
      obtain rfl := Option.some.inj asked
      rw [Cycle.next_opens opens]
      exact ⟨rfl, rfl⟩
  | none =>
      rw [opens] at asked
      dsimp only at asked
      split at asked
      · obtain ⟨ticket, current, rfl⟩ := Option.map_eq_some_iff.mp asked
        rw [Cycle.next_stays opens]
        exact ⟨current, rfl⟩
      · cases asked

/-- An input leads to a request for nodes exactly when it activates a network. -/
theorem asks_nodes_iff (agrees : moment.handout = moment.before.handout moment.input) :
    moment.Asks .nodes ↔ moment.opens? ≠ none := by
  unfold Asks opens?
  rw [agrees, Cycle.handout]
  cases moment.input.opens? moment.before.variant? with
  | some variant => simp
  | none =>
      simp only [ne_eq, not_true_eq_false, iff_false]
      rintro ⟨fetch, asked, half⟩
      split at asked
      · obtain ⟨ticket, -, rfl⟩ := Option.map_eq_some_iff.mp asked
        cases half
      · cases asked

/-- An input leads to a request for links exactly when it brings the first nodes. -/
theorem asks_links_iff (agrees : moment.handout = moment.before.handout moment.input) :
    moment.Asks .links ↔
      moment.opens? = none ∧ moment.before.nodes? = none ∧ moment.cycle.nodes? ≠ none := by
  unfold Asks opens? cycle
  rw [agrees, Cycle.handout]
  cases opens : moment.input.opens? moment.before.variant? with
  | some variant => simp
  | none =>
      constructor
      · rintro ⟨fetch, asked, -⟩
        dsimp only at asked
        split at asked
        case isTrue first => exact ⟨rfl, first⟩
        case isFalse => cases asked
      · rintro ⟨-, first⟩
        obtain ⟨ticket, nodes, current, -⟩ := Cycle.input_of_first_nodes opens first.1 first.2
        exact ⟨ticket.fetch .links, by simp [first, current], rfl⟩

/-- A request for links answers a successful reply for the nodes of the current activation. -/
theorem input_of_asks_links (agrees : moment.handout = moment.before.handout moment.input)
    {fetch : Fetch} (asked : moment.handout.fetch? = some fetch) (half : fetch.half = .links) :
    moment.before.ticket? = some fetch.ticket ∧
      ∃ nodes, moment.input = .nodes fetch.ticket (.ok nodes) := by
  obtain ⟨stays, missing, arrived⟩ := (asks_links_iff agrees).mp ⟨fetch, asked, half⟩
  obtain ⟨ticket, nodes, current, input⟩ := Cycle.input_of_first_nodes stays missing arrived
  have known := (fetch_ticket agrees asked).1
  rw [cycle, Cycle.next_stays stays] at known
  obtain rfl : ticket = fetch.ticket := Option.some.inj (current.symm.trans known)
  exact ⟨current, nodes, input⟩

/-- An input leads to a picture exactly when it completes it. -/
theorem picture?_eq_some_iff (agrees : moment.handout = moment.before.handout moment.input)
    (picture : Picture) :
    moment.handout.picture? = some picture ↔
      moment.opens? = none ∧ moment.before.picture? = none ∧
        moment.cycle.picture? = some picture := by
  unfold opens? cycle
  rw [agrees, Cycle.handout]
  cases moment.input.opens? moment.before.variant? with
  | some variant => simp
  | none => by_cases missing : moment.before.picture? = none <;> simp [missing]

end Moment

/-- The assembler is ready exactly when the picture is there. -/
theorem Cycle.stage_eq_ready_iff (cycle : Cycle) :
    cycle.stage = .ready ↔ cycle.picture?.isSome = true := by
  unfold stage picture?
  cases known : cycle.variant? with
  | none => simp [nodes?, ticket?, known]
  | some variant => cases cycle.nodes? <;> cases cycle.links? <;> simp

/-- The assembler is idle exactly as long as there is no activation. -/
theorem Cycle.stage_eq_idle_iff (cycle : Cycle) : cycle.stage = .idle ↔ cycle.variant? = none := by
  unfold stage
  cases cycle.variant? <;> cases cycle.nodes? <;> cases cycle.links? <;> simp

/-- Only the activation of a network makes a network known. -/
theorem Cycle.after_variant?_eq_none_iff (cycle : Cycle) (inputs : List AssemblerInput) :
    (cycle.after inputs).variant? = none ↔
      cycle.variant? = none ∧ ∀ variant, .activate variant ∉ inputs := by
  induction inputs generalizing cycle with
  | nil => simp
  | cons input rest ih =>
      rw [after_cons, ih]
      cases opens : input.opens? cycle.variant? with
      | none =>
          rw [next_stays opens]
          have other (variant : NetworkKind) : input ≠ .activate variant := by
            rintro rfl
            cases opens
          simp [fun variant => (other variant).symm]
      | some variant =>
          rw [next_opens opens]
          cases input with
          | activate variant =>
              simp only [reduceCtorEq, false_and, false_iff, not_and]
              exact fun _ never => never variant List.mem_cons_self
          | refresh => simp [show cycle.variant? = some variant from opens]
          | nodes ticket result => cases opens
          | links ticket result => cases opens

/-- What holds of a run of a new assembler. -/
structure RequestDiscipline (inputs : List AssemblerInput) : Prop where
  /-- An input asks for nodes exactly when it activates a network. -/
  nodes_asked : ∀ moment ∈ AssemblerInput.history inputs, moment.Asks .nodes ↔ moment.opens? ≠ none
  /-- An input asks for links exactly when it brings the first nodes of the activation. -/
  links_asked : ∀ moment ∈ AssemblerInput.history inputs, moment.Asks .links ↔
    moment.opens? = none ∧ moment.before.nodes? = none ∧ moment.cycle.nodes? ≠ none
  /-- Such an input is a successful reply for nodes with the ticket of the current activation. -/
  links_cause : ∀ moment ∈ AssemblerInput.history inputs, ∀ fetch,
    moment.handout.fetch? = some fetch → fetch.half = .links →
      moment.before.ticket? = some fetch.ticket ∧
        ∃ nodes, moment.input = .nodes fetch.ticket (.ok nodes)
  /-- Two inputs that ask for the same half belong to different activations. -/
  asked_once : (AssemblerInput.history inputs).Pairwise fun earlier later => ∀ half,
    earlier.Asks half → later.Asks half → earlier.cycle.number ≠ later.cycle.number
  /-- Two requests carry the same ticket exactly when they belong to the same activation. -/
  same_ticket : ∀ first ∈ AssemblerInput.history inputs, ∀ second ∈ AssemblerInput.history inputs,
    ∀ fetch other, first.handout.fetch? = some fetch → second.handout.fetch? = some other →
      (fetch.ticket = other.ticket ↔ first.cycle.number = second.cycle.number)
  /-- A request goes to a collection of the network of its activation. -/
  collection : ∀ moment ∈ AssemblerInput.history inputs, ∀ fetch,
    moment.handout.fetch? = some fetch → ∃ variant, moment.cycle.variant? = some variant ∧
      fetch.collection = variant.collection fetch.half
  /-- An input publishes a picture exactly when it completes it: the picture of the first nodes of
  the activation and the first links after them. -/
  published : ∀ moment ∈ AssemblerInput.history inputs, ∀ picture,
    moment.handout.picture? = some picture ↔
      moment.opens? = none ∧ moment.before.picture? = none ∧ moment.cycle.picture? = some picture
  /-- Two inputs that publish a picture belong to different activations. -/
  published_once : (AssemblerInput.history inputs).Pairwise fun earlier later =>
    earlier.Publishes → later.Publishes → earlier.cycle.number ≠ later.cycle.number
  /-- The state shows the picture of the current activation. -/
  view : (Assembler.run {} inputs).view = (Cycle.after {} inputs).picture?
  /-- There is a picture exactly when the assembler is ready. -/
  ready : (Assembler.run {} inputs).view.isSome = true ↔ (Assembler.run {} inputs).stage = .ready
  /-- The assembler is idle exactly as long as no network was activated. -/
  idle : (Assembler.run {} inputs).stage = .idle ↔ ∀ variant, .activate variant ∉ inputs

namespace Moment

variable {earlier later : Moment}

/-- An input that activates a network opens a later activation. -/
theorem number_lt_of_opens (follows : earlier.cycle.Precedes later.before)
    (opens : later.opens? ≠ none) : earlier.cycle.number < later.cycle.number := by
  obtain ⟨variant, opens⟩ := Option.ne_none_iff_exists'.mp opens
  change earlier.cycle.number < (later.before.next later.input).number
  rw [Cycle.next_opens opens]
  exact Nat.lt_succ_of_le follows.number

/-- Any other input belongs to the activation that it finds. -/
theorem number_of_stays (stays : later.opens? = none) :
    later.cycle.number = later.before.number := by
  rw [cycle, Cycle.next_stays stays]

/-- Inputs that ask for the same half belong to different activations. -/
theorem number_ne_of_asks (follows : earlier.cycle.Precedes later.before)
    (agreesEarlier : earlier.handout = earlier.before.handout earlier.input)
    (agreesLater : later.handout = later.before.handout later.input) {half : Half}
    (first : earlier.Asks half) (second : later.Asks half) :
    earlier.cycle.number ≠ later.cycle.number := by
  cases half with
  | nodes => exact (number_lt_of_opens follows ((asks_nodes_iff agreesLater).mp second)).ne
  | links =>
      obtain ⟨-, -, arrived⟩ := (asks_links_iff agreesEarlier).mp first
      obtain ⟨stays, missing, -⟩ := (asks_links_iff agreesLater).mp second
      intro same
      exact follows.nodes (same.trans (number_of_stays stays)) arrived missing

/-- Inputs that publish a picture belong to different activations. -/
theorem number_ne_of_publishes (follows : earlier.cycle.Precedes later.before)
    (agreesEarlier : earlier.handout = earlier.before.handout earlier.input)
    (agreesLater : later.handout = later.before.handout later.input)
    (first : earlier.Publishes) (second : later.Publishes) :
    earlier.cycle.number ≠ later.cycle.number := by
  obtain ⟨picture, first⟩ := Option.ne_none_iff_exists'.mp first
  obtain ⟨-, -, complete⟩ := (picture?_eq_some_iff agreesEarlier picture).mp first
  obtain ⟨other, second⟩ := Option.ne_none_iff_exists'.mp second
  obtain ⟨stays, missing, -⟩ := (picture?_eq_some_iff agreesLater other).mp second
  intro same
  exact follows.picture (same.trans (number_of_stays stays)) (by simp [complete]) missing

end Moment

/-- Moments of one activation are about one network. -/
theorem Assembler.variant?_eq_of_mem_moments {assembler : Assembler} {cycle : Cycle}
    {inputs : List AssemblerInput} {first second : Moment}
    (firstMember : first ∈ assembler.moments cycle inputs)
    (secondMember : second ∈ assembler.moments cycle inputs)
    (same : first.cycle.number = second.cycle.number) :
    first.cycle.variant? = second.cycle.variant? := by
  have ordered := (assembler.moments_pairwise cycle inputs).imp fun {_ later} follows =>
    (follows.trans (later.before.precedes_next later.input)).variant
  refine List.Pairwise.forall_of_forall_of_flip (R := fun first second : Moment =>
    first.cycle.number = second.cycle.number → first.cycle.variant? = second.cycle.variant?)
    (fun _ _ _ => rfl) ?_ ?_ firstMember secondMember same
  · exact ordered.imp fun known same => (known same).symm
  · exact ordered.imp fun known same => known same.symm

/-- Every run of a new assembler, with any tickets in any order, keeps the discipline of its
requests. -/
theorem assembler_requestDiscipline (inputs : List AssemblerInput) : RequestDiscipline inputs := by
  have agrees {moment : Moment} (member : moment ∈ AssemblerInput.history inputs) :=
    Assembler.Follows.new.handout_of_mem_moments member
  have ordered := Assembler.moments_pairwise {} {} inputs
  have final := Assembler.Follows.new.run inputs
  constructor
  case nodes_asked => exact fun _ member => Moment.asks_nodes_iff (agrees member)
  case links_asked => exact fun _ member => Moment.asks_links_iff (agrees member)
  case links_cause =>
    exact fun _ member _ asked half => Moment.input_of_asks_links (agrees member) asked half
  case asked_once =>
    refine ordered.imp_of_mem fun member member' follows half => ?_
    exact Moment.number_ne_of_asks follows (agrees member) (agrees member')
  case same_ticket =>
    intro first member second member' fetch other asked asked'
    obtain ⟨variant, known, ticket⟩ :=
      Option.map_eq_some_iff.mp (Moment.fetch_ticket (agrees member) asked).1
    obtain ⟨variant', known', ticket'⟩ :=
      Option.map_eq_some_iff.mp (Moment.fetch_ticket (agrees member') asked').1
    rw [← ticket, ← ticket']
    constructor
    · intro same
      exact congrArg Ticket.generation same
    · -- The number alone is not the ticket: within an activation the network is the same, too.
      intro same
      have sameVariant := Assembler.variant?_eq_of_mem_moments member member' same
      rw [known, known'] at sameVariant
      rw [same, Option.some.inj sameVariant]
  case collection =>
    intro moment member fetch asked
    obtain ⟨ticket, collection⟩ := Moment.fetch_ticket (agrees member) asked
    obtain ⟨variant, known, same⟩ := Option.map_eq_some_iff.mp ticket
    rw [← same] at collection
    exact ⟨variant, known, collection⟩
  case published => exact fun _ member => Moment.picture?_eq_some_iff (agrees member)
  case published_once =>
    refine ordered.imp_of_mem fun member member' follows => ?_
    exact Moment.number_ne_of_publishes follows (agrees member) (agrees member')
  case view => exact final.view
  case ready => rw [final.view, final.stage, Cycle.stage_eq_ready_iff]
  case idle =>
    rw [final.stage, Cycle.stage_eq_idle_iff, Cycle.after_variant?_eq_none_iff]
    simp

end MeshConsole
