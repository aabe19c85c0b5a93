import ClusterDriver.Shutdown
import Mathlib.Data.ENat.Lattice
import Mathlib.Data.List.Perm.Basic

set_option autoImplicit false

namespace ClusterDriver

namespace ShutdownMember

def ends (member : ShutdownMember) : ℕ∞ := member.finished.elim ⊤ Nat.cast

def endsBefore (limit : Nat) (member : ShutdownMember) : Bool :=
  member.finished.any fun finished => finished < limit

/-- When nobody waits for a member any more. -/
def due (timeout : Nat) (member : ShutdownMember) : Nat :=
  min timeout (member.finished.getD timeout)

variable {timeout now : Nat} {member : ShutdownMember}

theorem inTime_iff : member.inTime timeout = true ↔ ∃ finished ≤ timeout,
    member.finished = some finished := by
  cases ended : member.finished <;> simp [inTime, ended]

theorem inTime_eq_endsBefore (apart : member.finished ≠ some timeout) :
    member.inTime timeout = member.endsBefore timeout := by
  cases ended : member.finished with
  | none => simp [inTime, endsBefore, ended]
  | some finished =>
    have : finished ≠ timeout := fun same => apart (same ▸ ended)
    simp only [inTime, endsBefore, ended, Option.any_some, decide_eq_decide]
    omega

theorem outcome_of_inTime (inTime : member.inTime now = true) (early : now ≤ timeout) :
    member.outcome now = member.outcome timeout := by
  obtain ⟨finished, before, ended⟩ := inTime_iff.1 inTime
  have later : member.inTime timeout = true :=
    inTime_iff.2 ⟨finished, Nat.le_trans before early, ended⟩
  simp only [outcome, inTime, later]

theorem outcome_eq_completed :
    member.outcome timeout = .completed ↔ member.inTime timeout = true ∧ member.failure = none := by
  unfold outcome
  split
  next inTime => cases failure : member.failure <;> simp [inTime]
  next late => simp [late]

theorem outcome_eq_timedOut :
    member.outcome timeout = .timedOut ↔ member.inTime timeout = false := by
  unfold outcome
  split
  next inTime => cases failure : member.failure <;> simp [inTime]
  next late => simp [late]

theorem due_le (member : ShutdownMember) : member.due timeout ≤ timeout := Nat.min_le_left _ _

theorem due_le_iff : member.due timeout ≤ now ↔ member.inTime now = true ∨ timeout ≤ now := by
  cases ended : member.finished with
  | none => simp [due, inTime, ended]
  | some finished => simp [due, inTime, ended, or_comm]

theorem outcome_of_due (past : member.due timeout ≤ now) (early : now ≤ timeout) :
    member.outcome now = member.outcome timeout := by
  rcases due_le_iff.1 past with inTime | last
  · exact outcome_of_inTime inTime early
  · rw [Nat.le_antisymm early last]

theorem due_cast : (member.due timeout : ℕ∞) = min (timeout : ℕ∞) member.ends := by
  cases ended : member.finished with
  | none => simp [due, ends, ended]
  | some finished =>
    simp only [due, ends, ended, Option.getD_some, Option.elim_some]
    exact Nat.mono_cast.map_min

end ShutdownMember

namespace ShutdownReport

theorem foldl_add (outcomes : List (String × MemberOutcome)) (report : ShutdownReport) :
    outcomes.foldl (fun report (name, outcome) => report.add name outcome) report =
      { completed := report.completed ++ (outcomes.filter (·.2 = .completed)).map (·.1)
        failed := report.failed ++ outcomes.filterMap fun
          | (name, .failed message) => some (name, message)
          | _ => none
        timedOut := report.timedOut ++ (outcomes.filter (·.2 = .timedOut)).map (·.1)
        elapsed := report.elapsed } := by
  induction outcomes generalizing report with
  | nil => simp
  | cons first rest ih =>
    obtain ⟨name, outcome⟩ := first
    rw [List.foldl_cons, ih]
    cases outcome <;> simp [add]

variable {timeout : Nat} {members : List ShutdownMember}

theorem ofMembers_eq (timeout : Nat) (members : List ShutdownMember) :
    ofMembers timeout members = {
      completed :=
        (members.filter fun member => member.inTime timeout && member.failure.isNone).map (·.name)
      failed := (members.filter (·.inTime timeout)).filterMap fun member =>
        member.failure.map (member.name, ·)
      timedOut := (members.filter fun member => !member.inTime timeout).map (·.name)
      elapsed := elapsedOf timeout members } := by
  simp only [ofMembers, ofOutcomes, foldl_add, List.nil_append, List.filter_map, List.map_map,
    List.filterMap_map, List.filterMap_filter, mk.injEq, and_true]
  refine ⟨congrArg (List.map _) (List.filter_congr ?_), List.filterMap_congr ?_,
    congrArg (List.map _) (List.filter_congr ?_)⟩
  · intro member _
    cases failure : member.failure <;> simp [ShutdownMember.outcome_eq_completed, failure]
  · intro member _
    cases inTime : member.inTime timeout <;> cases failure : member.failure <;>
      simp [ShutdownMember.outcome, inTime, failure]
  · intro member _
    simp [ShutdownMember.outcome_eq_timedOut]

theorem perm_ofOutcomes (elapsed : Nat) (outcomes : List (String × MemberOutcome)) :
    ((ofOutcomes elapsed outcomes).completed ++ (ofOutcomes elapsed outcomes).failed.map (·.1) ++
      (ofOutcomes elapsed outcomes).timedOut).Perm (outcomes.map (·.1)) := by
  simp only [ofOutcomes, foldl_add, List.nil_append]
  induction outcomes with
  | nil => exact .refl _
  | cons first rest ih =>
    obtain ⟨name, outcome⟩ := first
    cases outcome with
    | completed => simpa using ih
    | failed message =>
      refine .trans ?_ (ih.cons name)
      simp
    | timedOut =>
      refine .trans ?_ (ih.cons name)
      simp [-List.append_assoc, List.perm_middle]

theorem perm_ofMembers (timeout : Nat) (members : List ShutdownMember) :
    ((ofMembers timeout members).completed ++ (ofMembers timeout members).failed.map (·.1) ++
      (ofMembers timeout members).timedOut).Perm (members.map (·.name)) := by
  have sorted := perm_ofOutcomes (elapsedOf timeout members)
    (members.map fun member => (member.name, member.outcome timeout))
  rwa [List.map_map] at sorted

theorem isClean_ofMembers : (ofMembers timeout members).isClean = true ↔
    ∀ member ∈ members, member.inTime timeout = true ∧ member.failure = none := by
  simp only [isClean, ofMembers_eq, Bool.and_eq_true, List.isEmpty_iff,
    List.map_eq_nil_iff, List.filterMap_eq_nil_iff, List.filter_eq_nil_iff, List.mem_filter,
    Option.map_eq_none_iff, Bool.not_eq_true', Bool.not_eq_false, and_imp]
  exact ⟨fun ⟨sound, early⟩ member listed =>
      ⟨early member listed, sound member listed (early member listed)⟩,
    fun clean => ⟨fun member listed _ => (clean member listed).2,
      fun member listed => (clean member listed).1⟩⟩

def latest (timeout : Nat) (members : List ShutdownMember) : Nat :=
  (members.map (·.due timeout)).foldr max 0

theorem due_le_latest {member : ShutdownMember} (listed : member ∈ members) :
    member.due timeout ≤ latest timeout members := by
  induction members with
  | nil => cases listed
  | cons first rest ih =>
    rcases List.mem_cons.1 listed with rfl | later
    · exact Nat.le_max_left _ _
    · exact Nat.le_trans (ih later) (Nat.le_max_right _ _)

theorem latest_le {bound : Nat} (within : ∀ member ∈ members, member.due timeout ≤ bound) :
    latest timeout members ≤ bound := by
  induction members with
  | nil => exact Nat.zero_le _
  | cons first rest ih =>
    have others := ih fun member later => within member (.tail _ later)
    exact Nat.max_le.2 ⟨within first (.head _), others⟩

theorem latest_cast : (latest timeout members : ℕ∞) =
    min (timeout : ℕ∞) ((members.map (·.ends)).foldr max 0) := by
  induction members with
  | nil => simp [latest]
  | cons first rest ih =>
    calc (latest timeout (first :: rest) : ℕ∞)
        = max (first.due timeout : ℕ∞) (latest timeout rest) := Nat.mono_cast.map_max
      _ = min (timeout : ℕ∞) (max first.ends ((rest.map (·.ends)).foldr max 0)) := by
          rw [ShutdownMember.due_cast, ih, min_max_distrib_left]

theorem foldl_max_finished (early : ∀ member ∈ members, member.inTime timeout = true)
    (start : Nat) :
    (members.filterMap (·.finished)).foldl max start = max start (latest timeout members) := by
  induction members generalizing start with
  | nil => simp [latest]
  | cons first rest ih =>
    obtain ⟨finished, before, ended⟩ := ShutdownMember.inTime_iff.1 (early first (.head _))
    rw [List.filterMap_cons_some ended, List.foldl_cons,
      ih (fun member later => early member (.tail _ later)), Nat.max_assoc]
    simp [latest, ShutdownMember.due, ended, before]

theorem elapsedOf_eq_latest : elapsedOf timeout members = latest timeout members := by
  unfold elapsedOf
  split
  next early =>
    rw [foldl_max_finished (List.all_eq_true.1 early), Nat.zero_max]
  next late =>
    simp only [List.all_eq_true, not_forall] at late
    obtain ⟨member, listed, late⟩ := late
    refine Nat.le_antisymm ?_ (latest_le fun member _ => member.due_le)
    have reached : timeout ≤ member.due timeout := by
      by_contra before
      have := ShutdownMember.due_le_iff.1 (Nat.le_refl (member.due timeout))
      rcases this with inTime | last
      · obtain ⟨finished, le, ended⟩ := ShutdownMember.inTime_iff.1 inTime
        exact late (ShutdownMember.inTime_iff.2
          ⟨finished, Nat.le_trans le member.due_le, ended⟩)
      · exact before last
    exact Nat.le_trans reached (due_le_latest listed)

end ShutdownReport

structure ShutdownWait where
  member : ShutdownMember
  outcome : Option MemberOutcome := none

structure ShutdownGroup where
  timeout : Nat
  waits : List ShutdownWait
  now : Nat := 0

namespace ShutdownGroup

inductive Action where
  | ask (place : Nat)
  | pass

def opened (timeout : Nat) (members : List ShutdownMember) : ShutdownGroup where
  timeout
  waits := members.map ({ member := · })

def opened? (now timeout : Nat) (members : List ShutdownMember) : Option ShutdownGroup :=
  (Clock.after? now timeout).map fun _ => opened timeout members

def answer? (group : ShutdownGroup) (member : ShutdownMember) : Option MemberOutcome :=
  if member.inTime group.now || group.timeout ≤ group.now then some (member.outcome group.now)
  else none

def asked (group : ShutdownGroup) (wait : ShutdownWait) : ShutdownWait :=
  { wait with outcome := wait.outcome.or (group.answer? wait.member) }

def isOver (group : ShutdownGroup) : Bool := group.waits.all (·.outcome.isSome)

/-- There is something to be heard before time goes on. -/
def isBusy (group : ShutdownGroup) : Bool :=
  group.waits.any fun wait => wait.outcome.isNone && (group.answer? wait.member).isSome

def act (group : ShutdownGroup) : Action → ShutdownGroup
  | .ask place => { group with waits := group.waits.modify place group.asked }
  | .pass => if group.isOver || group.isBusy then group else { group with now := group.now + 1 }

def run (group : ShutdownGroup) (actions : List Action) : ShutdownGroup := actions.foldl act group

def report? (group : ShutdownGroup) : Option ShutdownReport :=
  if group.isOver then
    some (.ofOutcomes group.now
      (group.waits.filterMap fun wait => wait.outcome.map (wait.member.name, ·)))
  else none

variable {group : ShutdownGroup}

theorem answer?_eq (member : ShutdownMember) : group.answer? member =
    if member.due group.timeout ≤ group.now then some (member.outcome group.now) else none := by
  simp only [answer?, ShutdownMember.due_le_iff, Bool.or_eq_true, decide_eq_true_eq]

theorem asked_cases (group : ShutdownGroup) (wait : ShutdownWait) : group.asked wait = wait ∨
    wait.outcome = none ∧ wait.member.due group.timeout ≤ group.now ∧
      group.asked wait = { wait with outcome := some (wait.member.outcome group.now) } := by
  obtain ⟨member, outcome⟩ := wait
  cases outcome with
  | some outcome => exact .inl rfl
  | none =>
    by_cases past : member.due group.timeout ≤ group.now
    · exact .inr ⟨rfl, past, by simp [asked, answer?_eq, past]⟩
    · exact .inl (by simp [asked, answer?_eq, past])

theorem isOver_iff : group.isOver = true ↔
    ∀ wait ∈ group.waits, ∃ outcome, wait.outcome = some outcome := by
  simp [isOver, Option.isSome_iff_exists]

theorem isBusy_eq_false : group.isBusy = false ↔ ∀ wait ∈ group.waits,
    wait.outcome = none → group.now < wait.member.due group.timeout := by
  simp [isBusy, answer?_eq]

theorem act_cases (group : ShutdownGroup) (action : Action) : group.act action = group ∨
    (∃ before wait after, group.waits = before ++ wait :: after ∧ wait.outcome = none ∧
      wait.member.due group.timeout ≤ group.now ∧
      group.act action = { group with
        waits := before ++
          { wait with outcome := some (wait.member.outcome group.now) } :: after }) ∨
    (group.isOver = false ∧ group.isBusy = false ∧
      group.act action = { group with now := group.now + 1 }) := by
  cases action with
  | ask place =>
    by_cases listed : place < group.waits.length
    · rcases group.asked_cases group.waits[place] with same | ⟨unknown, past, same⟩
      · exact .inl (by
          rw [act, List.modify_eq_take_cons_drop listed, same, List.cons_getElem_drop_succ,
            List.take_append_drop])
      · refine .inr (.inl ⟨group.waits.take place, group.waits[place],
          group.waits.drop (place + 1), ?_, unknown, past, ?_⟩)
        · rw [List.cons_getElem_drop_succ, List.take_append_drop]
        · rw [act, List.modify_eq_take_cons_drop listed, same]
    · exact .inl (by rw [act, List.modify_eq_self (Nat.le_of_not_lt listed)])
  | pass =>
    cases complete : group.isOver with
    | true => exact .inl (by simp [act, complete])
    | false =>
      cases busy : group.isBusy with
      | true => exact .inl (by simp [act, busy])
      | false => exact .inr (.inr ⟨rfl, rfl, by simp [act, complete, busy]⟩)

variable {timeout : Nat} {members : List ShutdownMember}

structure Keeps (timeout : Nat) (members : List ShutdownMember) (group : ShutdownGroup) : Prop where
  timeout_eq : group.timeout = timeout
  members_eq : group.waits.map (·.member) = members
  now_le : group.now ≤ ShutdownReport.latest timeout members
  known : ∀ wait ∈ group.waits, ∀ outcome, wait.outcome = some outcome →
    wait.member.due timeout ≤ group.now ∧ outcome = wait.member.outcome timeout
  unknown : ∀ wait ∈ group.waits, wait.outcome = none → group.now ≤ wait.member.due timeout

theorem Keeps.early (keeps : Keeps timeout members group) : group.now ≤ timeout :=
  Nat.le_trans keeps.now_le (ShutdownReport.latest_le fun member _ => member.due_le)

theorem Keeps.listed (keeps : Keeps timeout members group) {wait : ShutdownWait}
    (waits : wait ∈ group.waits) : wait.member ∈ members :=
  keeps.members_eq ▸ List.mem_map_of_mem waits

theorem keeps_opened (timeout : Nat) (members : List ShutdownMember) :
    Keeps timeout members (opened timeout members) where
  timeout_eq := rfl
  members_eq := by simp [opened, Function.comp_def]
  now_le := Nat.zero_le _
  known := by simp [opened]
  unknown := fun _ _ _ => Nat.zero_le _

theorem Keeps.act (keeps : Keeps timeout members group) (action : Action) :
    Keeps timeout members (group.act action) := by
  rcases act_cases group action with same | ⟨before, wait, after, split, _, past, same⟩ |
    ⟨unfinished, idle, same⟩
  · rw [same]
    exact keeps
  · have listed : wait ∈ group.waits := by simp [split]
    rw [keeps.timeout_eq] at past
    rw [same]
    refine ⟨keeps.timeout_eq, ?_, keeps.now_le, ?_, ?_⟩
    · simp [← keeps.members_eq, split]
    · intro other among outcome told
      rcases List.mem_append.1 among with earlier | later
      · exact keeps.known other (by simp [split, earlier]) outcome told
      · rcases List.mem_cons.1 later with rfl | later
        · cases told
          exact ⟨past, ShutdownMember.outcome_of_due past keeps.early⟩
        · exact keeps.known other (by simp [split, later]) outcome told
    · intro other among silent
      rcases List.mem_append.1 among with earlier | later
      · exact keeps.unknown other (by simp [split, earlier]) silent
      · rcases List.mem_cons.1 later with rfl | later
        · cases silent
        · exact keeps.unknown other (by simp [split, later]) silent
  · rw [isBusy_eq_false, keeps.timeout_eq] at idle
    rw [same]
    refine ⟨keeps.timeout_eq, keeps.members_eq, ?_, ?_, ?_⟩
    · -- Somebody is still awaited, and time has not come that far.
      have ⟨wait, listed, silent⟩ : ∃ wait ∈ group.waits, wait.outcome = none := by
        simpa [isOver] using unfinished
      exact Nat.le_trans (idle wait listed silent) (ShutdownReport.due_le_latest
        (keeps.listed listed))
    · intro wait listed outcome told
      have ⟨past, same⟩ := keeps.known wait listed outcome told
      exact ⟨Nat.le_succ_of_le past, same⟩
    · exact idle

theorem Keeps.run (keeps : Keeps timeout members group) (actions : List Action) :
    Keeps timeout members (group.run actions) := by
  induction actions generalizing group with
  | nil => exact keeps
  | cons action rest ih => exact ih (keeps.act action)

theorem Keeps.report?_eq (keeps : Keeps timeout members group) : group.report? =
    if group.isOver then some (.ofMembers timeout members) else none := by
  unfold report?
  split
  next complete =>
    rw [isOver_iff] at complete
    -- Everybody is through, and time has not gone on since the last one was.
    have elapsed : group.now = ShutdownReport.elapsedOf timeout members := by
      rw [ShutdownReport.elapsedOf_eq_latest]
      refine Nat.le_antisymm keeps.now_le (ShutdownReport.latest_le ?_)
      rw [← keeps.members_eq]
      intro member listed
      obtain ⟨wait, waits, rfl⟩ := List.mem_map.1 listed
      obtain ⟨outcome, told⟩ := complete wait waits
      exact (keeps.known wait waits outcome told).1
    have outcomes : group.waits.filterMap (fun wait => wait.outcome.map (wait.member.name, ·)) =
        members.map fun member => (member.name, member.outcome timeout) := by
      rw [← keeps.members_eq, List.map_map, ← List.filterMap_eq_map]
      refine List.filterMap_congr fun wait listed => ?_
      obtain ⟨outcome, told⟩ := complete wait listed
      simp [told, (keeps.known wait listed outcome told).2]
    rw [elapsed, outcomes, ShutdownReport.ofMembers]
  next => rfl

def remaining (group : ShutdownGroup) : Nat :=
  (group.timeout - group.now) + group.waits.countP (·.outcome.isNone)

theorem exists_remaining_lt (unfinished : group.isOver = false) :
    ∃ action, (group.act action).remaining < group.remaining := by
  cases busy : group.isBusy with
  | true =>
    -- Somebody has an answer and is asked for it.
    have ⟨wait, listed, silent, answers⟩ : ∃ wait ∈ group.waits, wait.outcome = none ∧
        (group.answer? wait.member).isSome = true := by simpa [isBusy] using busy
    obtain ⟨before, after, split⟩ := List.append_of_mem listed
    refine ⟨.ask before.length, ?_⟩
    obtain ⟨outcome, answer⟩ := Option.isSome_iff_exists.1 answers
    have taken : group.act (.ask before.length) =
        { group with waits := before ++ { wait with outcome := some outcome } :: after } := by
      simp [act, split, List.modify_eq_take_cons_drop, asked, silent, answer]
    simp [remaining, taken, split, silent]
  | false =>
    -- Nobody has one, so it is before the limit, and time goes on.
    have ⟨wait, listed, silent⟩ : ∃ wait ∈ group.waits, wait.outcome = none := by
      simpa [isOver] using unfinished
    have early : group.now < group.timeout :=
      Nat.lt_of_lt_of_le (isBusy_eq_false.1 busy wait listed silent) wait.member.due_le
    refine ⟨.pass, ?_⟩
    simp only [remaining, act, unfinished, busy, Bool.or_self, Bool.false_eq_true, if_false]
    omega

theorem exists_isOver (group : ShutdownGroup) : ∃ actions, (group.run actions).isOver = true := by
  induction left : group.remaining using Nat.strong_induction_on generalizing group with
  | h left ih =>
    cases complete : group.isOver with
    | true => exact ⟨[], complete⟩
    | false =>
      obtain ⟨action, less⟩ := exists_remaining_lt complete
      obtain ⟨actions, complete⟩ := ih _ (left.symm ▸ less) (group.act action) rfl
      exact ⟨action :: actions, complete⟩

theorem run_append (first more : List Action) :
    group.run (first ++ more) = (group.run first).run more :=
  List.foldl_append

theorem opened?_eq_none_iff {now : Nat} :
    opened? now timeout members = none ↔ Clock.limit ≤ now + timeout := by
  simp [opened?]

/-- Whatever has happened to a group can go on until it reports, and what it reports is settled
beforehand: each member once, by how it ended and in the order of the members, together with the
time until the last member ended or the limit came. -/
theorem reports_everybody {now timeout : Nat} (fits : now + timeout < Clock.limit)
    {members : List ShutdownMember}
    (apart : ∀ member ∈ members, member.finished ≠ some timeout) (actions : List Action) :
    ∃ group, opened? now timeout members = some group ∧
      (∃ more report, (group.run (actions ++ more)).report? = some report) ∧
      ∀ report, (group.run actions).report? = some report →
        ShutdownReport.ofGroup? now timeout members = some report ∧
        report.completed = (members.filter fun member =>
          member.endsBefore timeout && member.failure.isNone).map (·.name) ∧
        report.failed = (members.filter (·.endsBefore timeout)).filterMap (fun member =>
          member.failure.map (member.name, ·)) ∧
        report.timedOut = (members.filter fun member =>
          !member.endsBefore timeout).map (·.name) ∧
        (report.completed ++ report.failed.map (·.1) ++ report.timedOut).Perm
          (members.map (·.name)) ∧
        (report.elapsed : ℕ∞) = min (timeout : ℕ∞) ((members.map (·.ends)).foldr max 0) ∧
        (report.isClean = true ↔ ∀ member ∈ members,
          member.endsBefore timeout = true ∧ member.failure = none) := by
  have sorted : ∀ member ∈ members, member.inTime timeout = member.endsBefore timeout :=
    fun member listed => ShutdownMember.inTime_eq_endsBefore (apart member listed)
  have opens : opened? now timeout members = some (opened timeout members) := by
    rw [opened?, Clock.after?_eq_some fits, Option.map_some]
  refine ⟨opened timeout members, opens, ?_, fun report told => ?_⟩
  · obtain ⟨more, complete⟩ := exists_isOver ((opened timeout members).run actions)
    refine ⟨more, .ofMembers timeout members, ?_⟩
    rw [run_append, (((keeps_opened timeout members).run actions).run more).report?_eq, complete,
      if_pos rfl]
  · rw [((keeps_opened timeout members).run actions).report?_eq,
      Option.ite_none_right_eq_some, Option.some.injEq] at told
    obtain ⟨_, rfl⟩ := told
    refine ⟨?_, ?_, ?_, ?_, ShutdownReport.perm_ofMembers timeout members, ?_, ?_⟩
    · rw [ShutdownReport.ofGroup?, Clock.after?_eq_some fits, Option.map_some]
    · rw [ShutdownReport.ofMembers_eq]
      exact congrArg (List.map _) (List.filter_congr fun member listed => by
        rw [sorted member listed])
    · rw [ShutdownReport.ofMembers_eq]
      exact congrArg (List.filterMap _) (List.filter_congr sorted)
    · rw [ShutdownReport.ofMembers_eq]
      exact congrArg (List.map _) (List.filter_congr fun member listed => by
        rw [sorted member listed])
    · rw [ShutdownReport.ofMembers_eq, ← ShutdownReport.latest_cast,
        ShutdownReport.elapsedOf_eq_latest]
    · rw [ShutdownReport.isClean_ofMembers]
      exact forall₂_congr fun member listed => by rw [sorted member listed]

def mixedMembers : List ShutdownMember :=
  [{ name := "pool", finished := some 20 },
    { name := "timer", finished := some 0, failure := some "timer thread panicked" },
    { name := "stuck", finished := some 3600 }, { name := "pool", finished := some 3 },
    { name := "lost" }]

theorem mixed_reports_everybody :
    7000 + 50 < Clock.limit ∧ (∀ member ∈ mixedMembers, member.finished ≠ some 50) ∧
      ∃ group, opened? 7000 50 mixedMembers = some group ∧
        ∃ more, (group.run ([.ask 1, .pass, .ask 0, .ask 7] ++ more)).report? =
          some { completed := ["pool", "pool"], failed := [("timer", "timer thread panicked")],
                 timedOut := ["stuck", "lost"], elapsed := 50 } := by
  have fits : 7000 + 50 < Clock.limit := by decide
  have apart : ∀ member ∈ mixedMembers, member.finished ≠ some 50 := by decide
  obtain ⟨group, opens, ⟨more, report, told⟩, _⟩ :=
    reports_everybody fits apart [.ask 1, .pass, .ask 0, .ask 7]
  obtain ⟨other, alike, _, reports⟩ :=
    reports_everybody fits apart ([.ask 1, .pass, .ask 0, .ask 7] ++ more)
  obtain rfl := Option.some.inj (opens.symm.trans alike)
  have ⟨same, _⟩ := reports report told
  refine ⟨fits, apart, group, opens, more, told.trans (same.symm.trans ?_)⟩
  decide

end ShutdownGroup

end ClusterDriver
