/-
The running services of a model: a reconfiguration leaves one running service for each service of the
model that has a poll period, in the order of the model, and brings about that every service that ran
before is retired and then each new one launched.
-/
import TopicRelay.Control.Services
import Mathlib.Data.List.Basic

namespace TopicRelay.Control

open TopicRelay.Config TopicRelay.Polling

/-! ## Effects that are no log entries -/

/-- Whether an effect on the running services is a log entry. -/
def ServicesEffect.isLog : ServicesEffect → Bool
  | .log _ => true
  | _ => false

/-- What is brought about apart from log entries. -/
def ServicesEffect.deeds (es : List ServicesEffect) : List ServicesEffect :=
  es.filter fun e => !e.isLog

@[simp] theorem ServicesEffect.deeds_append (es fs : List ServicesEffect) :
    deeds (es ++ fs) = deeds es ++ deeds fs :=
  List.filter_append ..

@[simp] theorem ServicesEffect.deeds_log (e : Log.Entry) (es : List ServicesEffect) :
    deeds (.log e :: es) = deeds es :=
  List.filter_cons_of_neg (by simp [isLog])

@[simp] theorem ServicesEffect.deeds_launch (r : Running) (es : List ServicesEffect) :
    deeds (.launch r :: es) = .launch r :: deeds es :=
  List.filter_cons_of_pos (by simp [isLog])

@[simp] theorem ServicesEffect.deeds_retire (rs : List Running) : deeds (rs.map .retire) = rs.map .retire := by
  unfold deeds
  rw [List.filter_eq_self]
  intro e he
  obtain ⟨r, -, rfl⟩ := List.mem_map.1 he
  rfl

namespace Services

/-! ## Launching -/

/-- The running services that a list of services gives: those with a poll period, with their sessions
numbered from `next` on. -/
def fresh (ctx : Context) (owner : Owner) (next : Nat) (configs : List ServiceConfig) :
    List Running :=
  (configs.filter checkPollPeriod).mapIdx fun i config =>
    { config, session := { owner, number := next + i }, context := ctx }

/-- The failures that a list of services gives: those without a poll period. -/
def refused (configs : List ServiceConfig) : List StartFailure :=
  (configs.filter fun config => !checkPollPeriod config).map fun config =>
    { service := config.name
      error := .invalidPollPeriod config.name config.pollPeriodMs.toNat }

theorem refused_eq (configs : List ServiceConfig) :
    refused configs = (configs.filter fun c => c.pollPeriodMs == 0).map fun c =>
      { service := c.name, error := .invalidPollPeriod c.name 0 } := by
  unfold refused
  have hfilter : (configs.filter fun c => !checkPollPeriod c) =
      configs.filter fun c => c.pollPeriodMs == 0 :=
    List.filter_congr fun c _ => by simp [checkPollPeriod, bne]
  rw [hfilter]
  refine List.map_congr_left fun c hc => ?_
  have hzero : c.pollPeriodMs = 0 := by simpa using (List.mem_filter.1 hc).2
  rw [hzero]
  rfl

theorem fresh_cons_of_period {ctx : Context} {owner : Owner} {next : Nat} {config : ServiceConfig}
    {rest : List ServiceConfig} (h : checkPollPeriod config = true) :
    fresh ctx owner next (config :: rest) =
      { config, session := { owner, number := next }, context := ctx } ::
        fresh ctx owner (next + 1) rest := by
  unfold fresh
  rw [List.filter_cons_of_pos h, List.mapIdx_cons]
  simp only [Nat.add_zero, Nat.add_assoc, Nat.add_comm 1]

theorem fresh_cons_of_no_period {ctx : Context} {owner : Owner} {next : Nat}
    {config : ServiceConfig} {rest : List ServiceConfig} (h : ¬ checkPollPeriod config = true) :
    fresh ctx owner next (config :: rest) = fresh ctx owner next rest := by
  unfold fresh
  rw [List.filter_cons_of_neg h]

theorem map_config_fresh (ctx : Context) (owner : Owner) (next : Nat)
    (configs : List ServiceConfig) :
    (fresh ctx owner next configs).map (·.config) = configs.filter checkPollPeriod := by
  unfold fresh
  apply List.ext_getElem
  · rw [List.length_map, List.length_mapIdx]
  · intro i _ _
    rw [List.getElem_map, List.getElem_mapIdx]

theorem context_of_mem_fresh {ctx : Context} {owner : Owner} {next : Nat}
    {configs : List ServiceConfig} {r : Running} (hr : r ∈ fresh ctx owner next configs) :
    r.context = ctx := by
  unfold fresh at hr
  obtain ⟨i, hi, rfl⟩ := List.mem_mapIdx.1 hr
  rfl

theorem launchAll_eq (ctx : Context) (s : Services) (configs : List ServiceConfig) :
    (s.launchAll ctx configs).1 =
        { s with
          running := s.running ++ fresh ctx s.owner s.nextNumber configs
          nextNumber := s.nextNumber + (configs.filter checkPollPeriod).length } ∧
      (s.launchAll ctx configs).2.1 = refused configs ∧
      ServicesEffect.deeds (s.launchAll ctx configs).2.2 =
        (fresh ctx s.owner s.nextNumber configs).map .launch := by
  induction configs generalizing s with
  | nil => simp [launchAll, fresh, refused, ServicesEffect.deeds]
  | cons config rest ih =>
    unfold launchAll
    by_cases h : checkPollPeriod config = true
    · obtain ⟨h1, h2, h3⟩ := ih { s with
        running := s.running ++ [
          { config, session := { owner := s.owner, number := s.nextNumber }, context := ctx }]
        nextNumber := s.nextNumber + 1 }
      rw [if_pos h, fresh_cons_of_period h]
      refine ⟨?_, ?_, ?_⟩
      · simp only [h1, List.filter_cons_of_pos h, List.append_assoc, List.singleton_append,
          List.length_cons, Nat.add_assoc, Nat.add_comm 1]
      · simp only [h2, refused, List.filter_cons, h, Bool.not_true, Bool.false_eq_true, if_false]
      · simp only [ServicesEffect.deeds_launch, h3, List.map_cons]
    · obtain ⟨h1, h2, h3⟩ := ih s
      rw [if_neg h, fresh_cons_of_no_period h]
      refine ⟨?_, ?_, ?_⟩
      · simp only [h1, List.filter_cons_of_neg h]
      · simp only [h2, refused, List.filter_cons, h, Bool.not_false, if_true, List.map_cons]
      · simp only [ServicesEffect.deeds_log, h3]

/-! ## Reconfiguration -/

/-- A reconfiguration, whatever ran before: the services with a poll period run, those without one
are its failures, and the launches follow the retirements. -/
theorem reconfigure_eq (ctx : Context) (s : Services) (m : Model) :
    (s.reconfigure ctx m).1 =
        { s with
          running := fresh ctx s.owner s.nextNumber m.services
          nextNumber := s.nextNumber + (m.services.filter checkPollPeriod).length } ∧
      (s.reconfigure ctx m).2.1 = refused m.services ∧
      ServicesEffect.deeds (s.reconfigure ctx m).2.2 =
        s.running.map .retire ++ (fresh ctx s.owner s.nextNumber m.services).map .launch := by
  obtain ⟨h1, h2, h3⟩ := launchAll_eq ctx { s with running := [] } m.services
  unfold reconfigure close
  refine ⟨?_, h2, ?_⟩
  · simp only [h1, List.nil_append]
  · simp only [List.cons_append, ServicesEffect.deeds_log, ServicesEffect.deeds_append,
      ServicesEffect.deeds_retire, h3]
    simp [ServicesEffect.deeds]

end Services

end TopicRelay.Control
