import FlagHost.Proofs.Membership
import FlagHost.Proofs.Parents

/-!
# When required flags serve enough

The converse of what is said of required flags where prerequisites are met: what must they serve,
so that prerequisites are met? It is not enough that each serves a value asked for. A flag whose own
prerequisites are not met serves its off variation, and meets nothing with it, even if that has the
value asked for. Main statement: prerequisites are met if and only if all required flags that yield
something have their own ones met, and serve a value asked for.

The levels of the check play no part if chains of prerequisites are short. `Linked` counts their
links, satisfied or not; since every link counts, a bound excludes circles as well.
-/

namespace FlagHost

namespace Configuration

/-- The flags are linked by so many prerequisites, whatever the flags yield. -/
inductive Linked (c : Configuration) : Nat → Flag → Flag → Prop where
  | here (flag : Flag) : Linked c 0 flag flag
  | step {n : Nat} {flag parent last : Flag} {required : Prerequisite}
      (mem : required ∈ flag.prerequisites)
      (found : c.flags.find? required.flag = some parent) (more : Linked c n parent last) :
      Linked c (n + 1) flag last

/-- Chains of prerequisites from the flag have 32 parents at most. -/
def Shallow (c : Configuration) (flag : Flag) : Prop := ∀ n last, c.Linked n flag last → n ≤ 32

theorem Chain.linked {c : Configuration} {yields : Flag → Variation → Prop} {n : Nat}
    {flag last : Flag} (h : c.Chain yields n flag last) : c.Linked n flag last := by
  induction h with
  | here flag => exact .here flag
  | step mem satisfied _ ih => exact .step mem satisfied.1 ih

/-- A number that sinks along prerequisites bounds the length of chains. -/
theorem Shallow.of_rank {c : Configuration} (rank : Flag → Nat)
    (sinks : ∀ key flag, c.flags.find? key = some flag → ∀ required ∈ flag.prerequisites,
      ∀ parent, c.flags.find? required.flag = some parent → rank parent < rank flag)
    {key : String} {flag : Flag} (known : c.flags.find? key = some flag)
    (bound : rank flag ≤ 32) : c.Shallow flag := by
  intro n last linked
  have sunk : n + rank last ≤ rank flag := by
    clear bound
    induction linked generalizing key with
    | here flag => simp
    | step mem found _ ih =>
      have less := sinks key _ known _ mem _ found
      have rest := ih found
      omega
  omega

end Configuration

namespace Evaluator

/-- The flag, which is required, serves one of the values asked for. -/
def ServesAllowed (e : Evaluator) (target : Target) (required : Prerequisite) (parent : Flag) :
    Prop :=
  ∃ v, e.evaluate required.flag target parent.kind = some v ∧ v.value ∈ required.values

variable {e : Evaluator} {target : Target} {flag parent : Flag}

/-- Prerequisites that are met are met at as many levels as chains need. -/
theorem prerequisitesMet_of_linked {levels : Nat}
    (short : ∀ n last, e.configuration.Linked n flag last → n < levels)
    (met : e.prerequisitesMet target prerequisiteLevels flag = true) :
    e.prerequisitesMet target levels flag = true := by
  rw [prerequisitesMet_iff] at met ⊢
  intro n last chain
  exact ⟨short n last chain.linked, (met n last chain).2⟩

/-- A flag that yields something and whose prerequisites are not met does not meet any. -/
theorem not_met_of_parent {required : Prerequisite} {v : Variation}
    (mem : required ∈ flag.prerequisites)
    (found : e.configuration.flags.find? required.flag = some parent)
    (yielded : e.Yields target parent v)
    (unmet : ¬ e.prerequisitesMet target prerequisiteLevels parent = true) :
    ¬ e.prerequisitesMet target prerequisiteLevels flag = true := by
  intro met
  have requires : e.Requires target flag parent := ⟨required, mem, found, v, yielded⟩
  exact unmet (requires.met met)

theorem met_iff_parents (shallow : e.configuration.Shallow flag) :
    e.prerequisitesMet target prerequisiteLevels flag = true ↔
      ∀ required ∈ flag.prerequisites, ∀ parent v,
        e.configuration.flags.find? required.flag = some parent → e.Yields target parent v →
          e.prerequisitesMet target prerequisiteLevels parent = true ∧
            e.ServesAllowed target required parent := by
  constructor
  · intro met required mem parent v found yielded
    have requires : e.Requires target flag parent := ⟨required, mem, found, v, yielded⟩
    exact ⟨requires.met met, v, Honoured.of_met met required mem parent v found yielded⟩
  · intro h
    rw [prerequisiteLevels, prerequisitesMet_succ]
    rintro required mem ⟨parent, v, found, yielded⟩
    obtain ⟨met, w, served, value⟩ := h required mem parent v found yielded
    -- What is served is what the flag yields, as its own prerequisites are met.
    rw [evaluate_of_met found met] at served
    have short : ∀ n last, e.configuration.Linked n parent last → n < 32 :=
      fun n last more => shallow (n + 1) last (.step mem found more)
    exact ⟨parent, ⟨found, w, served, value⟩, prerequisitesMet_of_linked short met⟩

/-- Prerequisites are met if the required flags serve enough, and have their own prerequisites met.
Where they have not, they serve their off variations, which meet nothing. -/
theorem met_iff_served (e : Evaluator) (target : Target) :
    (∀ flag, e.configuration.Shallow flag →
      (e.prerequisitesMet target prerequisiteLevels flag = true ↔
        ∀ required ∈ flag.prerequisites, ∀ parent v,
          e.configuration.flags.find? required.flag = some parent → e.Yields target parent v →
            e.prerequisitesMet target prerequisiteLevels parent = true ∧
              e.ServesAllowed target required parent)) ∧
    (∀ flag, ∀ required ∈ flag.prerequisites, ∀ parent v,
      e.configuration.flags.find? required.flag = some parent → e.Yields target parent v →
        ¬ e.prerequisitesMet target prerequisiteLevels parent = true →
          e.evaluate required.flag target parent.kind = parent.variation? parent.offVariation ∧
            ¬ e.prerequisitesMet target prerequisiteLevels flag = true) := by
  refine ⟨fun flag shallow => met_iff_parents shallow, ?_⟩
  intro flag required mem parent v found yielded unmet
  have off : ¬ e.configuration.PrerequisitesHold (e.Yields target) parent := by
    rwa [prerequisitesMet_iff_hold] at unmet
  exact ⟨evaluate_of_not_hold found off, not_met_of_parent mem found yielded unmet⟩

/-- A shop that is closed, which a notice tells. The release is held back as it requires that the
shop is open, and a banner is for the time while it is held back. -/
def closedShop : Configuration where
  flags := [("banner", banner), ("notice", notice), ("open", closed), ("release", release)]
where
  banner : Flag := shop.storey "banner" [⟨"release", ["false"]⟩]
  notice : Flag := shop.storey "notice" [⟨"open", ["false"]⟩]
  closed : Flag := { shop.storey "open" [] with state := .off }
  release : Flag := shop.storey "release" [⟨"open", ["true"]⟩]

theorem closedShop_acyclic : closedShop.SegmentsAcyclic := by
  apply Configuration.SegmentsAcyclic.of_rank fun _ => 0
  rintro a b ⟨segment, clause, found, -⟩
  cases found

theorem find?_closedShop {key : String} {flag : Flag}
    (known : closedShop.flags.find? key = some flag) :
    flag = closedShop.banner ∨ flag = closedShop.notice ∨ flag = closedShop.closed ∨
      flag = closedShop.release := by
  simp only [closedShop, Table.find?_cons, Table.find?_nil] at known
  split at known
  · simp [Option.some.inj known]
  · split at known
    · simp [Option.some.inj known]
    · split at known
      · simp [Option.some.inj known]
      · split at known
        · simp [Option.some.inj known]
        · cases known

theorem closedShop_shallow {key : String} {flag : Flag}
    (known : closedShop.flags.find? key = some flag) : closedShop.Shallow flag := by
  let rank (flag : Flag) : Nat := if flag.key = "banner" then 2 else flag.prerequisites.length
  have bound : rank flag ≤ 32 := by
    rcases find?_closedShop known with rfl | rfl | rfl | rfl <;> decide
  refine Configuration.Shallow.of_rank rank ?_ known bound
  intro key flag known required mem parent found
  rcases find?_closedShop known with rfl | rfl | rfl | rfl
  · cases List.mem_singleton.1 mem
    cases found
    decide
  · cases List.mem_singleton.1 mem
    cases found
    decide
  · cases mem
  · cases List.mem_singleton.1 mem
    cases found
    decide

/-- The release serves the value that the banner asks for, but its own prerequisites are not met. -/
theorem not_met_of_served_off :
    let e : Evaluator := ⟨closedShop, percentBucket⟩
    let ann : Target := { identifier := "ann" }
    closedShop.SegmentsAcyclic ∧
      (∀ key flag, closedShop.flags.find? key = some flag → closedShop.Shallow flag) ∧
      closedShop.flags.find? "banner" = some closedShop.banner ∧
      (∀ required ∈ closedShop.banner.prerequisites, ∀ parent,
        closedShop.flags.find? required.flag = some parent →
          e.ServesAllowed ann required parent) ∧
      e.prerequisitesMet ann prerequisiteLevels closedShop.banner = false ∧
      e.evaluate "banner" ann .boolean = some ⟨"off", "false", none⟩ := by
  intro e ann
  refine ⟨closedShop_acyclic, fun key flag known => closedShop_shallow known, rfl, ?_,
    by decide +kernel, by decide +kernel⟩
  intro required mem parent found
  cases List.mem_singleton.1 mem
  cases found
  exact ⟨⟨"off", "false", none⟩, by decide +kernel, by decide +kernel⟩

/-- The notice is shown, as the shop serves what it asks for. The banner is not. -/
theorem met_iff_served_closedShop :
    let e : Evaluator := ⟨closedShop, percentBucket⟩
    let ann : Target := { identifier := "ann" }
    e.prerequisitesMet ann prerequisiteLevels closedShop.notice = true ∧
      e.evaluate "release" ann .boolean = some ⟨"off", "false", none⟩ ∧
      ¬ e.prerequisitesMet ann prerequisiteLevels closedShop.banner = true := by
  intro e ann
  obtain ⟨enough, unmet⟩ := met_iff_served e ann
  constructor
  · have known : closedShop.flags.find? "notice" = some closedShop.notice := rfl
    apply (enough closedShop.notice (closedShop_shallow known)).2
    intro required mem parent v found _
    cases List.mem_singleton.1 mem
    cases found
    exact ⟨by decide +kernel, ⟨"off", "false", none⟩, by decide +kernel, by decide +kernel⟩
  · have yielded : e.Yields ann closedShop.release ⟨"on", "true", none⟩ := by
      unfold Yields
      decide +kernel
    have held : ¬ e.prerequisitesMet ann prerequisiteLevels closedShop.release = true := by
      decide +kernel
    exact unmet closedShop.banner ⟨"release", ["false"]⟩ (by decide +kernel) closedShop.release _
      rfl yielded held

end Evaluator

end FlagHost
