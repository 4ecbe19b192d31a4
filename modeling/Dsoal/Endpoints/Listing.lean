import Mathlib.Data.List.Nodup
import Dsoal.Endpoints.Enumeration

/-!
# What an enumeration lists

Of a collection of devices with different identifiers, `enumerate_mmdev` lists each once, the
default one first.  The callback is called in that order, with the names.  This only fails if
the name of an endpoint is a value that is no string: `send_device` reads it as one, without
the check that `GetDeviceID` and `DSPROPERTY_DescriptionW` make
(`enumerateMmdev_enumerated_iff`).
-/

universe u

open Visit

namespace Dsoal

variable {σ : Type u} {sys : MMSystem} {flow : DataFlow}

section

variable [WinStrings]

/-- The endpoints of the collection whose identifier can be read. -/
def MMSystem.collected (sys : MMSystem) (flow : DataFlow) : List Endpoint :=
  (sys.items flow).filterMap itemEndpoint

/-- The default device is one of the collection. -/
def MMSystem.DefaultListed (sys : MMSystem) (flow : DataFlow) : Prop :=
  ∀ devenum device, sys = .ok devenum →
    devenum.getDefaultAudioEndpoint flow .multimedia = .ok device →
    .ok device ∈ sys.items flow

/-- What `enumerate_mmdev` is for: `ids` is the list and `res` the result it ends with, and
`calls` are the calls with what the callback returned. -/
structure MMSystem.Enumerated (sys : MMSystem) (flow : DataFlow) (res : EnumResult)
    (ids : List Guid) (calls : List (EnumCall × Bool)) : Prop where
  /-- Each endpoint is listed once, the default one first. -/
  listed : ∃ ps : List Endpoint,
    ps.Perm (sys.collected flow) ∧
    ps = (sys.defaultEndpoint flow).toList ++
      (sys.collected flow).filter (fun p ↦ sys.defaultEndpoint flow ≠ some p) ∧
    ids = ps.map Endpoint.id ∧
    Cut (primaryEntry :: ps.filterMap Endpoint.namedCall) calls
  atMostOnce : (calls.map Prod.fst).Nodup
  finished : res = .ok ∨ res = .stopped
  stopped : res = .stopped ↔ ∃ c ∈ calls, c.2 = false

/-- A call is made for an endpoint whose name is no string: it is the first of them, and the
callback has not returned `false` before. -/
def MisnamedReached (cb : σ → EnumCall → Bool × σ) (s : σ) (ps : List Endpoint) : Prop :=
  ∃ before p after t, ps = before ++ p :: after ∧ p.Misnamed ∧ (∀ q ∈ before, ¬ q.Misnamed) ∧
    visit (total cb) s (primaryEntry :: before.filterMap Endpoint.namedCall) = some (true, t)

/-! ## The list -/

omit [WinStrings] in
theorem headOnce_of_nodup {ps : List Endpoint} (h : (ps.map Endpoint.id).Nodup) :
    headOnce ps = ps := by
  cases ps with
  | nil => rfl
  | cons p ps =>
      refine congrArg (p :: ·) (List.filter_eq_self.mpr fun q hq ↦ ?_)
      have hp : p.id ∉ ps.map Endpoint.id := (List.nodup_cons.mp h).1
      exact decide_eq_true fun heq ↦ hp (heq ▸ List.mem_map_of_mem hq)

omit [WinStrings] in
/-- An endpoint in front of a list it is in is only moved there. -/
theorem headOnce_cons_of_mem {p : Endpoint} {ps : List Endpoint} (hp : p ∈ ps)
    (h : (ps.map Endpoint.id).Nodup) :
    headOnce (p :: ps) = p :: ps.filter fun q ↦ some p ≠ some q := by
  refine congrArg (p :: ·) (List.filter_congr fun q hq ↦ ?_)
  have hinj : p.id = q.id ↔ p = q :=
    ⟨List.inj_on_of_nodup_map h hp hq, congrArg Endpoint.id⟩
  simp [hinj]

theorem mem_collected_of_default (hlisted : sys.DefaultListed flow) {p : Endpoint}
    (h : sys.defaultEndpoint flow = some p) : p ∈ sys.collected flow := by
  cases sys with
  | error hr => cases h
  | ok devenum =>
      cases hdev : devenum.getDefaultAudioEndpoint flow .multimedia with
      | error hr => simp [MMSystem.defaultEndpoint, hdev, itemEndpoint] at h
      | ok device =>
          refine List.mem_filterMap.mpr ⟨_, hlisted devenum device rfl hdev, ?_⟩
          simpa [MMSystem.defaultEndpoint, hdev] using h

/-- **The list** has the default endpoint first, and then the others in order. -/
theorem endpoints_eq (hitems : sys.items flow ≠ []) (hlisted : sys.DefaultListed flow)
    (hnodup : ((sys.collected flow).map Endpoint.id).Nodup) :
    sys.endpoints flow = (sys.defaultEndpoint flow).toList ++
      (sys.collected flow).filter (fun p ↦ sys.defaultEndpoint flow ≠ some p) := by
  have hendpoints : sys.endpoints flow =
      headOnce ((sys.defaultEndpoint flow).toList ++ sys.collected flow) := by
    unfold MMSystem.endpoints MMSystem.collected
    cases hsys : sys.items flow with
    | nil => exact absurd hsys hitems
    | cons item items => rfl
  rw [hendpoints]
  cases hdefault : sys.defaultEndpoint flow with
  | none => simp [headOnce_of_nodup hnodup]
  | some p => exact headOnce_cons_of_mem (mem_collected_of_default hlisted hdefault) hnodup

theorem endpoints_perm (hitems : sys.items flow ≠ []) (hlisted : sys.DefaultListed flow)
    (hnodup : ((sys.collected flow).map Endpoint.id).Nodup) :
    (sys.endpoints flow).Perm (sys.collected flow) := by
  rw [endpoints_eq hitems hlisted hnodup]
  cases hdefault : sys.defaultEndpoint flow with
  | none => simp
  | some p =>
      have hp : p ∈ sys.collected flow := mem_collected_of_default hlisted hdefault
      have herase : (sys.collected flow).erase p =
          (sys.collected flow).filter fun q ↦ some p ≠ some q := by
        rw [(hnodup.of_map _).erase_eq_filter]
        refine List.filter_congr fun q _ ↦ ?_
        rw [Bool.eq_iff_iff]
        simp [eq_comm (a := p)]
      rw [Option.toList_some, List.singleton_append, ← herase]
      exact (List.perm_cons_erase hp).symm

end

/-! ## The calls -/

theorem Endpoint.eq_of_name {p : Endpoint} {devname : WString} (h : p.name = some devname) :
    p = ⟨p.id, .ok (.lpwstr devname)⟩ := by
  obtain ⟨id, _ | _ | _⟩ := p <;> cases h
  rfl

theorem Endpoint.namedCall_inj {p q : Endpoint} {c : EnumCall} (hp : p.namedCall = some c)
    (hq : q.namedCall = some c) : p = q := by
  obtain ⟨devname, hname, rfl⟩ := devname_of_namedCall hp
  obtain ⟨devname', hname', hc⟩ := devname_of_namedCall hq
  obtain ⟨hid, hdevname⟩ : p.id = q.id ∧ devname = devname' := by simpa using hc
  rw [eq_of_name hname, eq_of_name hname', hid, hdevname]

/-- The calls that are planned for endpoints with different identifiers are different. -/
theorem nodup_plan {ps : List Endpoint} (h : (ps.map Endpoint.id).Nodup) :
    (primaryEntry :: ps.filterMap Endpoint.namedCall).Nodup := by
  refine List.nodup_cons.mpr ⟨fun hmem ↦ ?_, ?_⟩
  · obtain ⟨p, -, hp⟩ := List.mem_filterMap.mp hmem
    obtain ⟨devname, -, hc⟩ := Endpoint.devname_of_namedCall hp
    exact absurd (congrArg EnumCall.guid hc) nofun
  · exact (h.of_map _).filterMap fun p q c hp hq ↦ Endpoint.namedCall_inj hp hq

/-- Every call that is planned has a name. -/
theorem devname_of_mem_plan {ps : List Endpoint} {c : EnumCall}
    (h : c ∈ primaryEntry :: ps.filterMap Endpoint.namedCall) : c.devname ≠ none := by
  rcases List.mem_cons.mp h with rfl | hmem
  · exact nofun
  · obtain ⟨p, -, hp⟩ := List.mem_filterMap.mp hmem
    obtain ⟨devname, -, rfl⟩ := Endpoint.devname_of_namedCall hp
    exact nofun

/-- The first endpoint whose name is no string, if there is one. -/
theorem exists_first_misnamed {ps : List Endpoint} (h : ¬ ∀ p ∈ ps, ¬ p.Misnamed) :
    ∃ before p after, ps = before ++ p :: after ∧ p.Misnamed ∧ ∀ q ∈ before, ¬ q.Misnamed := by
  induction ps with
  | nil => exact absurd (List.forall_mem_nil _) h
  | cons p ps ih =>
      by_cases hp : p.Misnamed
      · exact ⟨[], p, ps, rfl, hp, List.forall_mem_nil _⟩
      · obtain ⟨before, q, after, rfl, hq, hbefore⟩ := ih fun hps ↦
          h (List.forall_mem_cons.mpr ⟨hp, hps⟩)
        exact ⟨p :: before, q, after, rfl, hq, List.forall_mem_cons.mpr ⟨hp, hbefore⟩⟩

/-- **The calls for the endpoints** are those with the names, exactly if none is reached whose
name is no string. -/
theorem cut_named_iff {cb : σ → EnumCall → Bool × σ} {s t : σ} {ps : List Endpoint}
    {keepGoing : Bool} {calls : List (EnumCall × Bool)}
    (hrec : visit (total (recorded cb)) ([], s) (primaryEntry :: ps.filterMap Endpoint.call) =
      some (keepGoing, calls, t))
    (hcut : Cut (primaryEntry :: ps.filterMap Endpoint.call) calls) :
    Cut (primaryEntry :: ps.filterMap Endpoint.namedCall) calls ↔ ¬ MisnamedReached cb s ps := by
  constructor
  · rintro hnamed ⟨before, p, after, u, rfl, hp, hbefore, hvisit⟩
    rw [List.filterMap_append, List.filterMap_cons_some hp.call, Endpoint.filterMap_call hbefore,
      ← List.cons_append] at hrec
    obtain ⟨b, hb⟩ := mem_of_visit_true hvisit hrec
    exact devname_of_mem_plan (hnamed.mem hb) rfl
  · intro hreached
    by_cases hall : ∀ p ∈ ps, ¬ p.Misnamed
    · rwa [← Endpoint.filterMap_call hall]
    · obtain ⟨before, p, after, rfl, hp, hbefore⟩ := exists_first_misnamed hall
      obtain ⟨b, -, u, -, hvisit, -⟩ :=
        visit_recorded cb s (primaryEntry :: before.filterMap Endpoint.namedCall) []
      cases b with
      | true => exact absurd ⟨before, p, after, u, rfl, hp, hbefore, hvisit⟩ hreached
      | false =>
          rw [List.filterMap_append, Endpoint.filterMap_call hbefore, ← List.cons_append] at hrec
          obtain ⟨hcut, hstop⟩ := cut_of_visit_false hvisit hrec
          rw [List.filterMap_append, ← List.cons_append]
          exact hcut.extend hstop _

/-! ## The enumeration -/

/-- **`enumerate_mmdev`** lists the endpoints, and calls the callback for them, exactly if no
call is made for an endpoint whose name is no string. -/
theorem enumerateMmdev_enumerated_iff [WinStrings] (sys : MMSystem) (flow : DataFlow)
    (devlist : List Guid) (cb : σ → EnumCall → Bool × σ) (s : σ) (hitems : sys.items flow ≠ [])
    (hnodup : ((sys.collected flow).map Endpoint.id).Nodup)
    (hlisted : sys.DefaultListed flow) :
    ∃ res ids calls t,
      enumerateMmdev sys flow devlist (total (recorded cb)) ([], s) =
        some (res, ids, calls, t) ∧
      (sys.Enumerated flow res ids calls ↔ ¬ MisnamedReached cb s (sys.endpoints flow)) := by
  obtain ⟨keepGoing, calls, t, hrec, -, hcut, hiff⟩ :=
    visit_recorded cb s (primaryEntry :: (sys.endpoints flow).filterMap Endpoint.call) []
  rw [List.nil_append] at hrec
  have hperm : (sys.endpoints flow).Perm (sys.collected flow) :=
    endpoints_perm hitems hlisted hnodup
  refine ⟨.ofVisit keepGoing, (sys.endpoints flow).map Endpoint.id, calls, t, ?_, ?_⟩
  · rw [enumerateMmdev_visits hitems, hrec]
    rfl
  · rw [← cut_named_iff hrec hcut]
    constructor
    · rintro ⟨⟨ps, -, heq, -, hnamed⟩, -, -, -⟩
      rwa [endpoints_eq hitems hlisted hnodup, ← heq]
    · intro hnamed
      refine ⟨⟨_, hperm, endpoints_eq hitems hlisted hnodup, rfl, hnamed⟩, ?_, ?_, ?_⟩
      · exact (nodup_plan ((hperm.map _).nodup_iff.mpr hnodup)).sublist hnamed.inOrder.sublist
      · cases keepGoing with
        | true => exact .inl rfl
        | false => exact .inr rfl
      · rw [← hiff]
        cases keepGoing <;> simp [EnumResult.ofVisit]

section

local instance listingStrings : WinStrings := plainStrings

theorem sampleSystem_defaultListed (name : PropVariant) (flow : DataFlow) :
    (sampleSystem name).DefaultListed flow := by
  rintro devenum device ⟨⟩ ⟨⟩
  exact List.mem_cons_self

/-- The name of the only endpoint is no string. -/
theorem enumerateMmdev_misnamed :
    (sampleSystem .other).items .render ≠ [] ∧
    (((sampleSystem .other).collected .render).map Endpoint.id).Nodup ∧
    (sampleSystem .other).DefaultListed .render ∧
    ∃ res ids calls, enumerateMmdev (sampleSystem .other) .render []
        (total (recorded fun (s : Unit) _ ↦ (true, s))) ([], ()) = some (res, ids, calls, ()) ∧
      (⟨some ⟨1, 2, 3, 4⟩, none, aldriverName⟩, true) ∈ calls ∧
      ¬ (sampleSystem .other).Enumerated .render res ids calls := by
  refine ⟨List.cons_ne_nil _ _, by decide, sampleSystem_defaultListed _ _, .ok, [⟨1, 2, 3, 4⟩],
    [(primaryEntry, true), (⟨some ⟨1, 2, 3, 4⟩, none, aldriverName⟩, true)], by decide, by simp,
    ?_⟩
  rintro ⟨⟨ps, -, -, -, hcut⟩, -, -, -⟩
  exact devname_of_mem_plan (hcut.mem (List.mem_cons_of_mem _ List.mem_cons_self)) rfl

theorem enumerateMmdev_enumerated_iff_named :
    ∃ res ids calls t, enumerateMmdev (sampleSystem (.lpwstr (wide "Speakers"))) .render []
        (total (recorded fun (s : Unit) _ ↦ (true, s))) ([], ()) = some (res, ids, calls, t) ∧
      ((sampleSystem (.lpwstr (wide "Speakers"))).Enumerated .render res ids calls ↔
        ¬ MisnamedReached (fun (s : Unit) _ ↦ (true, s)) ()
          ((sampleSystem (.lpwstr (wide "Speakers"))).endpoints .render)) :=
  enumerateMmdev_enumerated_iff _ _ _ _ _ (List.cons_ne_nil _ _) (by decide)
    (sampleSystem_defaultListed _ _)

end

end Dsoal
