import VolumeManager.Api.Attach
import VolumeManager.Api.Interference
import VolumeManager.Json.Volume

/-!
# Concurrent creates of one name

`HandleCreate` checks its body, then makes one `CreateVolume` call. On the memory store that call is
one atomic step under the mutex; on the etcd store it is a `Get` of the name key, `json.Marshal` of
the record, and a `Txn` that commits only while the name key is absent. Creates carrying the same
name race for it. Other requests run beside them: creates of other names, and reads, listings,
stages and publishes (`Concurrent`), which keep to `View.Quiet`.

The race is stated once for both stores (`Race`). The creates still running hold records under
fresh, distinct IDs (`Fresh`); either nobody has won and the name is free (`Open`), or one of ours
has created the only record of that name and every other one is still running or was refused with
`409` (`Won`). What one step can do to the race is proved once: a create moves on
(`Race.advance`), finishes without writing (`Race.finish`), or commits its record
(`Race.commit`); another request's step is quiet (`Race.quiet`). Each store's creates are a machine
of program points (`Memory.machine`, `OnEtcd.machine`) run beside the other requests
(`Points.withProcs`), and its step lemma is assembled from those.

* `creates_one_winner`: creates with distinct IDs that no record has, at least one of them passing
  `HandleCreate`'s checks with the name `n` (ours), beside any reads, listings, stages and
  publishes, on either store, from a state where every record sits under its own ID and `n` is free
  (on etcd, with a codec that reads back what it writes and encodes our records). Every schedule
  that runs all requests to the end has exactly one of ours answering `201`, every other one of ours
  answering `409` `already_exists`, and the store holding under the winner's ID its record, up to
  the marks of stage and publish, as the only record named `n`.
* `create_needs_free_name`: each premise is needed. A lone create of a taken name answers `409`; with
  an empty name every create answers `400`; a stage of a record stored under another record's ID
  overwrites the winner; and on etcd a record `json.Marshal` refuses answers `500`.
-/

namespace VolumeManager

namespace Creates

open Etcd EtcdStore

variable {φ : Type}

/-- The answer to a create refused because its name is taken. -/
def duplicate : Response := errorResponse 409 "already_exists" "Volume with this name already exists"

/-- The creates that pass `HandleCreate`'s checks with the name `n`: ours, in the race for `n`. -/
def Ours (reg : Storage.Registry φ) (n : String) (creates : List (JsonObject × RequestEnv))
    (j : Nat) : Prop :=
  ∃ q vol, creates[j]? = some q ∧ VolumeHandler.newVolume reg q.1 q.2 = .ok vol ∧ vol.name = n

/-- One of our requests answered `201` with a record named `n`, which the store holds under its ID up
to the marks of stage and publish, as the only record named `n`; every other one of ours answered
`409` `already_exists`. -/
def OneCreated {W : Type} (n : String) (ours : Nat → Prop) (records : String → Option Volume)
    (reqs : List (Proc W Response)) : Prop :=
  ∃ (i : Nat) (vol : Volume), ours i ∧ reqs[i]? = some (Proc.done ⟨201, .volume vol⟩) ∧ vol.name = n ∧
    (∃ r, records vol.id = some r ∧ r.unmarked = vol.unmarked) ∧
    (∀ id r, records id = some r → r.name = n → id = vol.id) ∧
    ∀ (j : Nat) (p : Proc W Response), ours j → j ≠ i → reqs[j]? = some p → p = Proc.done duplicate

/-- Concurrent `HandleCreate` requests, each with its body and what `uuid.New()` and `time.Now()`
return, beside other requests. -/
def config {σ : Type} (st : Store σ) (reg : Storage.Registry φ) (creates : List (JsonObject × RequestEnv))
    (others : List Concurrent) (s : σ) (f : φ) : Config (σ × φ) Response :=
  ⟨(s, f), creates.map (fun q => VolumeHandler.handleCreate st reg q.1 q.2) ++
    others.map (Concurrent.handler st reg)⟩

/-- The point a create starts at: about to call the store with the record its checks made, or
finished with the answer that rejected it. -/
def startWith {ι : Type} (pending : Volume → ι) (done : Response → ι) (reg : Storage.Registry φ)
    (q : JsonObject × RequestEnv) : ι :=
  match VolumeHandler.newVolume reg q.1 q.2 with
  | .ok vol => pending vol
  | .error r => done r

/-- The requests at the start, on a machine of create points: each create at the point its checks
lead to, then the other requests. -/
def start {σ ι : Type} (st : Store σ) (reg : Storage.Registry φ) (pending : Volume → ι)
    (done : Response → ι) (creates : List (JsonObject × RequestEnv)) (others : List Concurrent) :
    List (ι ⊕ Proc (σ × φ) Response) :=
  creates.map (fun q => .inl (startWith pending done reg q)) ++ others.map fun o => .inr (o.handler st reg)

/-- On any machine whose points run `CreateVolume` from `pending` and stop at `done`, the creates
are their start points, beside the other requests as they are. -/
theorem config_eq_machine {σ ι : Type} (st : Store σ) (P : Points (σ × φ) Response ι)
    (pending : Volume → ι) (done : Response → ι)
    (hpending : ∀ vol, P.toProc (pending vol) =
      (st.createVolume vol).onFst.bind fun r => pure (VolumeHandler.createdResponse vol r))
    (hdone : ∀ r, P.toProc (done r) = .done r) (reg : Storage.Registry φ)
    (creates : List (JsonObject × RequestEnv)) (others : List Concurrent) (s : σ) (f : φ) :
    config st reg creates others s f = P.withProcs.toConfig ((s, f), start st reg pending done creates others) := by
  simp only [config, start, Points.toConfig, List.map_append, List.map_map]
  congr 3
  funext q
  simp only [Function.comp, Points.withProcs, Sum.elim_inl, VolumeHandler.handleCreate_eq, startWith]
  cases VolumeHandler.newVolume reg q.1 q.2 with
  | error r => exact (hdone r).symm
  | ok vol => exact (hpending vol).symm

/-! ## The race, for either store

A point is described by the record it is still trying to create (`running`) and the answer it
finished with (`out`); the store by its records and whether the name is taken. Which requests
are ours is fixed by their index. -/

section Race

variable {κ : Type} (running : κ → Option Volume) (out : κ → Option Response) (n : String)
  (ours : Nat → Prop) (records : String → Option Volume) (taken : Prop) (pts : List κ)

/-- The creates still running hold records under IDs that no record has and no other running create
holds; those that are not ours name another name. -/
structure Fresh : Prop where
  fresh : ∀ (j : Nat) (p : κ) (vol : Volume), pts[j]? = some p → running p = some vol →
    records vol.id = none
  distinct : ∀ (j k : Nat) (p p' : κ) (vol vol' : Volume), pts[j]? = some p → pts[k]? = some p' →
    running p = some vol → running p' = some vol' → vol.id = vol'.id → j = k
  foreign : ∀ (j : Nat) (p : κ) (vol : Volume), ¬ ours j → pts[j]? = some p → running p = some vol →
    vol.name ≠ n

/-- Nobody has won: the name is free, no record has it, and every one of ours is still running with
a record of that name. -/
structure Open : Prop where
  free : ¬ taken
  unnamed : ∀ (id : String) (r : Volume), records id = some r → r.name ≠ n
  running : ∀ (j : Nat) (p : κ), ours j → pts[j]? = some p → ∃ vol, running p = some vol ∧ vol.name = n

/-- Our request `i` created `vol`: the store holds it under its ID, up to the marks of stage and
publish, as the only record named `n`; every other one of ours is still running with a record of
that name, or was refused. -/
structure Won (i : Nat) (vol : Volume) : Prop where
  chosen : ours i
  winner : ∃ p, pts[i]? = some p ∧ out p = some ⟨201, .volume vol⟩
  name : vol.name = n
  stored : ∃ r, records vol.id = some r ∧ r.unmarked = vol.unmarked
  taken : taken
  only : ∀ (id : String) (r : Volume), records id = some r → r.name = n → id = vol.id
  others : ∀ (j : Nat) (p : κ), ours j → j ≠ i → pts[j]? = some p →
    (∃ vol', running p = some vol' ∧ vol'.name = n) ∨ out p = some duplicate

/-- The state of the race for the name `n`. -/
def Race : Prop :=
  Fresh running n ours records pts ∧
    (Open running n ours records taken pts ∨ ∃ i vol, Won running out n ours records taken pts i vol)

variable {running out n ours records taken pts}

/-- An entry after `set` that runs with a record ran with it before, at the same index. -/
theorem running_of_set {i j : Nat} {p q p' : κ} {vol : Volume} (hp : pts[i]? = some p)
    (hq : ∀ v, running q = some v → running p = some v) (hj : (pts.set i q)[j]? = some p')
    (hv : running p' = some vol) : ∃ p'', pts[j]? = some p'' ∧ running p'' = some vol := by
  rcases Points.getElem?_set_cases hj with ⟨rfl, rfl⟩ | ⟨-, hj⟩
  · exact ⟨p, hp, hq _ hv⟩
  · exact ⟨p', hj, hv⟩

/-- Freshness survives replacing a point by one that runs with no record it did not run with. -/
theorem Fresh.set (h : Fresh running n ours records pts) {i : Nat} {p q : κ} (hp : pts[i]? = some p)
    (hq : ∀ v, running q = some v → running p = some v) : Fresh running n ours records (pts.set i q) := by
  refine ⟨fun j p' vol hj hv => ?_, fun j k p₁ p₂ v₁ v₂ hj hk h₁ h₂ he => ?_, fun j p' vol ho hj hv => ?_⟩
  · obtain ⟨p'', hj', hv'⟩ := running_of_set hp hq hj hv
    exact h.fresh _ _ _ hj' hv'
  · obtain ⟨p₁', hj', h₁'⟩ := running_of_set hp hq hj h₁
    obtain ⟨p₂', hk', h₂'⟩ := running_of_set hp hq hk h₂
    exact h.distinct _ _ _ _ _ _ hj' hk' h₁' h₂' he
  · obtain ⟨p'', hj', hv'⟩ := running_of_set hp hq hj hv
    exact h.foreign _ _ _ ho hj' hv'

/-- Freshness survives a change of the records that adds no ID. -/
theorem Fresh.mono {records' : String → Option Volume} (h : Fresh running n ours records pts)
    (hrec : ∀ id, records id = none → records' id = none) : Fresh running n ours records' pts :=
  ⟨fun j p vol hj hv => hrec _ (h.fresh j p vol hj hv), h.distinct, h.foreign⟩

/-- A running create that commits its record leaves the other running creates fresh. -/
theorem Fresh.commit {records' : String → Option Volume} (h : Fresh running n ours records pts)
    {i : Nat} {p q : κ} {vol : Volume} (hp : pts[i]? = some p) (hv : running p = some vol)
    (hq : running q = none) (hrec : ∀ id, records' id = if id = vol.id then some vol else records id) :
    Fresh running n ours records' (pts.set i q) := by
  have hset := h.set hp fun v hv' => by rw [hq] at hv'; cases hv'
  refine ⟨fun j p' v hj hv' => ?_, hset.distinct, hset.foreign⟩
  rcases Points.getElem?_set_cases hj with ⟨rfl, rfl⟩ | ⟨hji, hj⟩
  · rw [hq] at hv'
    cases hv'
  · rw [hrec, if_neg fun he => hji (h.distinct _ _ _ _ _ _ hj hp hv' hv he)]
    exact h.fresh _ _ _ hj hv'

/-- The winner has answered, so a point that has not is another one. -/
theorem Won.ne_of_unanswered {i₀ : Nat} {vol₀ : Volume}
    (hw : Won running out n ours records taken pts i₀ vol₀) {i : Nat} {p : κ} (hp : pts[i]? = some p)
    (hout : out p = none) : i ≠ i₀ := by
  rintro rfl
  obtain ⟨p₀, hp₀, hout₀⟩ := hw.winner
  rw [hp, Option.some.injEq] at hp₀
  rw [← hp₀, hout] at hout₀
  cases hout₀

section Answers

variable (hrun : ∀ p vol, running p = some vol → out p = none)
include hrun

/-- The winner has answered, so it is not a request still running. -/
theorem Won.ne_of_running {i₀ : Nat} {vol₀ : Volume} (hw : Won running out n ours records taken pts i₀ vol₀)
    {i : Nat} {p : κ} {vol : Volume} (hp : pts[i]? = some p) (hv : running p = some vol) : i ≠ i₀ :=
  hw.ne_of_unanswered hp (hrun p vol hv)

/-- One of ours still running holds a record named `n`. -/
theorem Race.name_of_ours (h : Race running out n ours records taken pts) {i : Nat} {p : κ}
    {vol : Volume} (hp : pts[i]? = some p) (hv : running p = some vol) (ho : ours i) : vol.name = n := by
  rcases h.2 with ho' | ⟨i₀, vol₀, hw⟩
  · obtain ⟨vol', hv', hn⟩ := ho'.running i p ho hp
    rw [hv, Option.some.injEq] at hv'
    exact hv' ▸ hn
  · rcases hw.others i p ho (hw.ne_of_running hrun hp hv) hp with ⟨vol', hv', hn⟩ | hd
    · rw [hv, Option.some.injEq] at hv'
      exact hv' ▸ hn
    · rw [hrun p vol hv] at hd
      cases hd

end Answers

/-- Nobody has won yet after replacing a point by one that, if ours, still runs with a record of
the name. -/
theorem Open.set (ho : Open running n ours records taken pts) {i : Nat} {q : κ}
    (hq : ours i → ∃ vol, running q = some vol ∧ vol.name = n) :
    Open running n ours records taken (pts.set i q) := by
  refine ⟨ho.free, ho.unnamed, fun j p' hj hp' => ?_⟩
  rcases Points.getElem?_set_cases hp' with ⟨rfl, rfl⟩ | ⟨-, hp'⟩
  · exact hq hj
  · exact ho.running _ _ hj hp'

/-- The winner stays the winner after replacing another point by one that, if ours, still runs
with a record of the name or was refused. -/
theorem Won.set {i₀ : Nat} {vol₀ : Volume} (hw : Won running out n ours records taken pts i₀ vol₀)
    {i : Nat} {q : κ} (hi : i ≠ i₀)
    (hq : ours i → (∃ vol, running q = some vol ∧ vol.name = n) ∨ out q = some duplicate) :
    Won running out n ours records taken (pts.set i q) i₀ vol₀ := by
  obtain ⟨p₀, hp₀, hout₀⟩ := hw.winner
  refine ⟨hw.chosen, ⟨p₀, by rw [List.getElem?_set_ne hi]; exact hp₀, hout₀⟩, hw.name, hw.stored,
    hw.taken, hw.only, fun j p' hj hji hp' => ?_⟩
  rcases Points.getElem?_set_cases hp' with ⟨rfl, rfl⟩ | ⟨-, hp'⟩
  · exact hq hj
  · exact hw.others _ _ hj hji hp'

/-- The winner stays the winner over records that still hold it as the only one of the name, with
the name still taken. -/
theorem Won.over {records' : String → Option Volume} {taken' : Prop} {i₀ : Nat} {vol₀ : Volume}
    (hw : Won running out n ours records taken pts i₀ vol₀)
    (hstored : ∃ r, records' vol₀.id = some r ∧ r.unmarked = vol₀.unmarked) (htaken : taken')
    (honly : ∀ (id : String) (r : Volume), records' id = some r → r.name = n → id = vol₀.id) :
    Won running out n ours records' taken' pts i₀ vol₀ :=
  ⟨hw.chosen, hw.winner, hw.name, hstored, htaken, honly, hw.others⟩

section Answers

variable (hrun : ∀ p vol, running p = some vol → out p = none)
include hrun

/-- A running create that takes a step changing nothing and keeps running with its record. -/
theorem Race.advance (h : Race running out n ours records taken pts) {i : Nat} {p q : κ}
    {vol : Volume} (hp : pts[i]? = some p) (hv : running p = some vol) (hq : running q = running p) :
    Race running out n ours records taken (pts.set i q) := by
  refine ⟨h.1.set hp fun v hv' => hq ▸ hv', ?_⟩
  have hname : ours i → ∃ vol', running q = some vol' ∧ vol'.name = n :=
    fun ho => ⟨vol, hq ▸ hv, h.name_of_ours hrun hp hv ho⟩
  rcases h.2 with ho | ⟨i₀, vol₀, hw⟩
  · exact .inl (ho.set hname)
  · exact .inr ⟨i₀, vol₀, hw.set (hw.ne_of_running hrun hp hv) fun ho => .inl (hname ho)⟩

/-- A running create that finishes without writing: one of another name, with any answer, or one
of ours refused with `409` because the name is taken. -/
theorem Race.finish (h : Race running out n ours records taken pts) {i : Nat} {p q : κ}
    {vol : Volume} (hp : pts[i]? = some p) (hv : running p = some vol) (hq : running q = none)
    (hrefuse : vol.name = n → out q = some duplicate ∧ taken) :
    Race running out n ours records taken (pts.set i q) := by
  refine ⟨h.1.set hp fun v hv' => (by rw [hq] at hv'; cases hv'), ?_⟩
  have hrefused : ours i → out q = some duplicate ∧ taken :=
    fun ho => hrefuse (h.name_of_ours hrun hp hv ho)
  rcases h.2 with ho' | ⟨i₀, vol₀, hw⟩
  · exact .inl (ho'.set fun ho => absurd (hrefused ho).2 ho'.free)
  · exact .inr ⟨i₀, vol₀, hw.set (hw.ne_of_running hrun hp hv) fun ho => .inr (hrefused ho).1⟩

/-- A running create that commits its record under its ID and takes its name: one of ours wins an
open race, and one of another name leaves the race as it was. -/
theorem Race.commit {records' : String → Option Volume} {taken' : Prop}
    (h : Race running out n ours records taken pts) {i : Nat} {p q : κ} {vol : Volume}
    (hp : pts[i]? = some p) (hv : running p = some vol) (hq : running q = none)
    (hout : out q = some ⟨201, .volume vol⟩)
    (hrec : ∀ id, records' id = if id = vol.id then some vol else records id)
    (htaken : taken' ↔ taken ∨ vol.name = n) (hfree : vol.name = n → ¬ taken) :
    Race running out n ours records' taken' (pts.set i q) := by
  refine ⟨h.1.commit hp hv hq hrec, ?_⟩
  have hnamed : ∀ id r, records' id = some r → id = vol.id ∨ records id = some r := by
    intro id r hr
    rw [hrec] at hr
    split_ifs at hr with hid
    · exact .inl hid
    · exact .inr hr
  by_cases ho : ours i
  · have hn := h.name_of_ours hrun hp hv ho
    rcases h.2 with ho' | ⟨_, _, hw⟩
    · refine .inr ⟨i, vol, ho, ⟨q, List.getElem?_set_self (List.getElem?_eq_some_iff.1 hp).1, hout⟩,
        hn, ⟨vol, by rw [hrec, if_pos rfl], rfl⟩, htaken.2 (.inr hn), fun id r hr hrn => ?_,
        fun j p' hj hji hp' => ?_⟩
      · exact (hnamed id r hr).resolve_right fun hr' => ho'.unnamed id r hr' hrn
      · rcases Points.getElem?_set_cases hp' with ⟨rfl, rfl⟩ | ⟨-, hp'⟩
        · exact absurd rfl hji
        · exact .inl (ho'.running _ _ hj hp')
    · exact absurd hw.taken (hfree hn)
  · have hn : vol.name ≠ n := h.1.foreign _ _ _ ho hp hv
    have hother : ∀ id r, records' id = some r → r.name = n → records id = some r :=
      fun id r hr hrn => (hnamed id r hr).resolve_left fun hid => by
        rw [hrec, if_pos hid] at hr
        cases hr
        exact hn hrn
    rcases h.2 with ho' | ⟨i₀, vol₀, hw⟩
    · exact .inl ⟨fun ht => (htaken.1 ht).elim ho'.free hn,
        fun id r hr hrn => ho'.unnamed id r (hother id r hr hrn) hrn,
        (ho'.set fun hj => absurd hj ho).running⟩
    · obtain ⟨r₀, hr₀, hu₀⟩ := hw.stored
      have hid : vol₀.id ≠ vol.id := fun he => by rw [he, h.1.fresh _ _ _ hp hv] at hr₀; cases hr₀
      exact .inr ⟨i₀, vol₀, (hw.set (hw.ne_of_running hrun hp hv) fun hj => absurd hj ho).over
        ⟨r₀, by rw [hrec, if_neg hid]; exact hr₀, hu₀⟩ (htaken.2 (.inl hw.taken))
        fun id r hr hrn => hw.only id r (hother id r hr hrn) hrn⟩

end Answers

/-- A quiet step of another request: the name stays as taken as it was, and under every ID the
record up to its marks, or its absence; the request's point neither runs a create nor has answered
one, before or after. -/
theorem Race.quiet {records' : String → Option Volume} {taken' : Prop}
    (h : Race running out n ours records taken pts) {i : Nat} {p q : κ} (hp : pts[i]? = some p)
    (hpi : running p = none ∧ out p = none) (hqi : running q = none ∧ out q = none)
    (htaken : taken' ↔ taken)
    (hrec : ∀ id, (records' id).map Volume.unmarked = (records id).map Volume.unmarked) :
    Race running out n ours records' taken' (pts.set i q) := by
  have hsome : ∀ id r', records' id = some r' → ∃ r, records id = some r ∧ r.unmarked = r'.unmarked := by
    intro id r' hr'
    have := hrec id
    rw [hr', Option.map_some'] at this
    obtain ⟨r, hr, he⟩ := Option.map_eq_some'.1 this.symm
    exact ⟨r, hr, he⟩
  have hname : ∀ id r', records' id = some r' → r'.name = n → ∃ r, records id = some r ∧ r.name = n :=
    fun id r' hr' hn => (hsome id r' hr').imp fun r ⟨hr, he⟩ =>
      ⟨hr, by rw [← hn, ← Volume.unmarked_name, he, Volume.unmarked_name]⟩
  refine ⟨(h.1.set hp fun v hv => by rw [hqi.1] at hv; cases hv).mono fun id hid => by
    simpa [hid] using hrec id, ?_⟩
  rcases h.2 with ho | ⟨i₀, vol₀, hw⟩
  · have hset := ho.set (i := i) (q := q) fun hj => by
      obtain ⟨vol, hv, -⟩ := ho.running _ _ hj hp
      rw [hpi.1] at hv
      cases hv
    refine .inl ⟨fun ht => ho.free (htaken.1 ht), fun id r' hr' hn => ?_, hset.running⟩
    obtain ⟨r, hr, hrn⟩ := hname id r' hr' hn
    exact ho.unnamed id r hr hrn
  · have hi := hw.ne_of_unanswered hp hpi.2
    obtain ⟨r₀, hr₀, hu₀⟩ := hw.stored
    have := hrec vol₀.id
    rw [hr₀, Option.map_some'] at this
    obtain ⟨r₀', hr₀', hu₀'⟩ := Option.map_eq_some'.1 this
    refine .inr ⟨i₀, vol₀, (hw.set hi fun hj => ?_).over ⟨r₀', hr₀', hu₀'.trans hu₀⟩
      (htaken.2 hw.taken) fun id r' hr' hn => ?_⟩
    · rcases hw.others _ _ hj hi hp with ⟨vol, hv, -⟩ | hd
      · rw [hpi.1] at hv
        cases hv
      · rw [hpi.2] at hd
        cases hd
    · obtain ⟨r, hr, hrn⟩ := hname id r' hr' hn
      exact hw.only id r hr hrn

/-- At the end of a race one of ours has won: an open race has ours still running. -/
theorem Race.oneCreated {W : Type} (toProc : κ → Proc W Response)
    (hrunning : ∀ p vol, running p = some vol → (toProc p).result? = none)
    (hdone : ∀ p r, out p = some r → toProc p = .done r)
    (h : Race running out n ours records taken pts) (hours : ∃ j p, ours j ∧ pts[j]? = some p)
    (hfin : ∀ q ∈ pts.map toProc, q.result?.isSome) : OneCreated n ours records (pts.map toProc) := by
  have hstop : ∀ j p vol, pts[j]? = some p → running p = some vol → False := fun j p vol hp hv => by
    have := hfin _ (List.mem_map_of_mem toProc (List.getElem?_mem hp))
    rw [hrunning p vol hv] at this
    cases this
  rcases h.2 with ho | ⟨i, vol, hw⟩
  · obtain ⟨j, p, hj, hp⟩ := hours
    obtain ⟨vol, hv, -⟩ := ho.running j p hj hp
    exact (hstop j p vol hp hv).elim
  · obtain ⟨p, hp, hpo⟩ := hw.winner
    refine ⟨i, vol, hw.chosen, by simp [hp, hdone p _ hpo], hw.name, hw.stored, hw.only,
      fun j q hj hji hq => ?_⟩
    rw [List.getElem?_map] at hq
    obtain ⟨q', hq', rfl⟩ := Option.map_eq_some'.1 hq
    rcases hw.others j q' hj hji hq' with ⟨vol', hv, -⟩ | hd
    · exact (hstop j q' vol' hq' hv).elim
    · exact hdone q' _ hd

end Race

/-! ## The creates beside the other requests

The creates are points of a store's machine; the other requests run beside them as they are
(`Points.withProcs`). `Inv`: the race for `n` among the creates, in the store's view, and every
other request keeping to `View.Quiet` with an assertion that holds. -/

section Beside

variable {σ ι : Type}

/-- A function of the create points, `none` at the other requests. -/
def onCreates {κ α : Type} (f : ι → Option α) : ι ⊕ κ → Option α := Sum.elim f fun _ => none

variable (V : View σ) (running : ι → Option Volume) (out : ι → Option Response) (n : String)
  (ours : Nat → Prop)

/-- The race for `n` among the creates, with every other request keeping to `View.Quiet` and
holding its assertion. -/
def Inv (c : (σ × φ) × List (ι ⊕ Proc (σ × φ) Response)) : Prop :=
  Race (onCreates running) (onCreates out) n ours (V.records c.1.1) ((V.index c.1.1 n).isSome = true) c.2 ∧
    Points.Guarded V.Rely V.Quiet c

variable {V running out n ours}

/-- A step of another request keeps the invariant: it is quiet, so the race stays as it was. -/
theorem Inv.stepAt_inr {c : (σ × φ) × List (ι ⊕ Proc (σ × φ) Response)}
    (h : Inv V running out n ours c) {i : Nat} {u : σ × φ → σ × φ} {k : σ × φ → Proc (σ × φ) Response}
    (hp : c.2[i]? = some (.inr (.step u k))) :
    Inv V running out n ours (u c.1, c.2.set i (.inr (k c.1))) := by
  obtain ⟨hq, hg⟩ := h.2.stepAt_inr (fun _ _ => View.Quiet.rely) hp
  exact ⟨h.1.quiet hp ⟨rfl, rfl⟩ ⟨rfl, rfl⟩ (by rw [hq.1]) hq.2.1, hg⟩

/-- Two entries of a list without duplicates that are equal sit at one index. -/
theorem index_eq_of_nodup {α : Type} {l : List α} (hl : l.Nodup) {j k : Nat} {x : α}
    (hj : l[j]? = some x) (hk : l[k]? = some x) : j = k := by
  by_contra hne
  rcases Nat.lt_or_gt_of_ne hne with hlt | hlt
  · exact List.nodup_iff_getElem?_ne_getElem?.1 hl j k hlt (List.getElem?_eq_some_iff.1 hk).1
      (hj.trans hk.symm)
  · exact List.nodup_iff_getElem?_ne_getElem?.1 hl k j hlt (List.getElem?_eq_some_iff.1 hj).1
      (hk.trans hj.symm)

/-- An entry of the start: a create at its start point, or another request. -/
theorem start_cases {st : Store σ} {reg : Storage.Registry φ} {pending : Volume → ι}
    {done : Response → ι} {creates : List (JsonObject × RequestEnv)} {others : List Concurrent}
    {j : Nat} {p : ι ⊕ Proc (σ × φ) Response} (hp : (start st reg pending done creates others)[j]? = some p) :
    (∃ q, creates[j]? = some q ∧ p = .inl (startWith pending done reg q)) ∨
      ∃ o : Concurrent, p = .inr (o.handler st reg) := by
  unfold start at hp
  by_cases hj : j < creates.length
  · rw [List.getElem?_append_left (by simpa using hj), List.getElem?_map] at hp
    obtain ⟨q, hq, rfl⟩ := Option.map_eq_some'.1 hp
    exact .inl ⟨q, hq, rfl⟩
  · rw [List.getElem?_append_right (by simpa using hj), List.getElem?_map] at hp
    obtain ⟨o, -, rfl⟩ := Option.map_eq_some'.1 hp
    exact .inr ⟨o, rfl⟩

/-- A create's entry of the start is the create at its start point. -/
theorem start_getElem?_create {st : Store σ} {reg : Storage.Registry φ} {pending : Volume → ι}
    {done : Response → ι} {creates : List (JsonObject × RequestEnv)} {others : List Concurrent}
    {j : Nat} {q : JsonObject × RequestEnv} (hq : creates[j]? = some q) :
    (start st reg pending done creates others)[j]? = some (.inl (startWith pending done reg q)) := by
  unfold start
  rw [List.getElem?_append_left (by simpa using (List.getElem?_eq_some_iff.1 hq).1), List.getElem?_map,
    hq]
  rfl

/-- At the start the race is open: the name is free, our creates are at their pending points, and
every other request holds its assertion, that records sit under their own IDs. -/
theorem inv_start {st : Store σ} (hst : V.Calls st) (reg : Storage.Registry φ) {pending : Volume → ι}
    {done : Response → ι} (hpending : ∀ vol, running (pending vol) = some vol)
    (hdone : ∀ r, running (done r) = none) (creates : List (JsonObject × RequestEnv))
    (others : List Concurrent) (s : σ) (f : φ) (hkeyed : V.Keyed s) (hfree : V.index s n = none)
    (hunnamed : ∀ id r, V.records s id = some r → r.name ≠ n)
    (hfresh : ∀ q ∈ creates, V.records s q.2.uuid = none) (hids : (creates.map fun q => q.2.uuid).Nodup) :
    Inv V running out n (Ours reg n creates) ((s, f), start st reg pending done creates others) := by
  have hrun : ∀ {j : Nat} {p vol}, (start st reg pending done creates others)[j]? = some p →
      onCreates running p = some vol → ∃ q : JsonObject × RequestEnv, creates[j]? = some q ∧
        VolumeHandler.newVolume reg q.1 q.2 = .ok vol := by
    intro j p vol hp hv
    rcases start_cases hp with ⟨q, hq, rfl⟩ | ⟨o, rfl⟩
    · refine ⟨q, hq, ?_⟩
      simp only [onCreates, Sum.elim_inl, startWith] at hv
      split at hv
      · rw [hpending] at hv
        cases hv
        assumption
      · rw [hdone] at hv
        cases hv
    · cases hv
  refine ⟨⟨⟨fun j p vol hp hv => ?_, fun j k p p' vol vol' hp hp' hv hv' he => ?_,
    fun j p vol ho hp hv hn => ?_⟩, .inl ⟨by simp [hfree], hunnamed, fun j p ho hp => ?_⟩⟩, ?_⟩
  · obtain ⟨q, hq, hv⟩ := hrun hp hv
    rw [(VolumeHandler.newVolume_nodes reg hv).1]
    exact hfresh q (List.getElem?_mem hq)
  · obtain ⟨q, hq, hv⟩ := hrun hp hv
    obtain ⟨q', hq', hv'⟩ := hrun hp' hv'
    refine index_eq_of_nodup hids (x := q.2.uuid) (by simp [hq]) ?_
    rw [List.getElem?_map, hq', Option.map_some', ← (VolumeHandler.newVolume_nodes reg hv').1, ← he,
      (VolumeHandler.newVolume_nodes reg hv).1]
  · obtain ⟨q, hq, hv⟩ := hrun hp hv
    exact ho ⟨q, vol, hq, hv, hn⟩
  · obtain ⟨q, vol, hq, hv, hn⟩ := ho
    rw [start_getElem?_create hq, Option.some.injEq] at hp
    subst hp
    exact ⟨vol, by simp [onCreates, startWith, hv, hpending], hn⟩
  · intro j o hp
    rcases start_cases hp with ⟨q, -, he⟩ | ⟨o', he⟩
    · cases he
    · cases he
      exact ⟨_, _, Concurrent.guards hst reg o', hkeyed⟩

/-- At the end of a run of a machine whose running points have not finished and whose answered
points are finished with their answers, one of ours has won. -/
theorem Inv.oneCreated (P : Points (σ × φ) Response ι)
    (hrunning : ∀ p vol, running p = some vol → (P.toProc p).result? = none)
    (hdone : ∀ p r, out p = some r → P.toProc p = .done r) {c : (σ × φ) × List (ι ⊕ Proc (σ × φ) Response)}
    (h : Inv V running out n ours c) (hours : ∃ j p, ours j ∧ c.2[j]? = some p)
    (hfin : (P.withProcs.toConfig c).Finished) :
    OneCreated n ours (V.records c.1.1) (P.withProcs.toConfig c).reqs :=
  h.1.oneCreated (Sum.elim P.toProc id) (by rintro (p | q) vol hv; exacts [hrunning p vol hv, by cases hv])
    (by rintro (p | q) r hr; exacts [hdone p r hr, by cases hr]) hours hfin

/-- The run lemma, for any store's machine of create points: when each step keeps `Inv` and what
else the machine needs (`E`), every schedule that runs all requests to the end has one of ours
created. -/
theorem oneCreated_of_step {st : Store σ} (hst : V.Calls st) (P : Points (σ × φ) Response ι)
    (pending : Volume → ι) (done : Response → ι)
    (hpending : ∀ vol, P.toProc (pending vol) =
      (st.createVolume vol).onFst.bind fun r => pure (VolumeHandler.createdResponse vol r))
    (hdone : ∀ r, P.toProc (done r) = .done r)
    (hrpending : ∀ vol, running (pending vol) = some vol) (hrdone : ∀ r, running (done r) = none)
    (hrunning : ∀ p vol, running p = some vol → (P.toProc p).result? = none)
    (hout : ∀ p r, out p = some r → P.toProc p = .done r) (reg : Storage.Registry φ)
    (creates : List (JsonObject × RequestEnv)) (others : List Concurrent)
    (E : (σ × φ) × List (ι ⊕ Proc (σ × φ) Response) → Prop)
    (hstep : ∀ c i, Inv V running out n (Ours reg n creates) c → E c →
      Inv V running out n (Ours reg n creates) (P.withProcs.stepAt c i) ∧ E (P.withProcs.stepAt c i))
    (hours : ∃ j, Ours reg n creates j) (hids : (creates.map fun q => q.2.uuid).Nodup) (s : σ) (f : φ)
    (hE : E ((s, f), start st reg pending done creates others)) (hkeyed : V.Keyed s)
    (hfree : V.index s n = none) (hunnamed : ∀ id r, V.records s id = some r → r.name ≠ n)
    (hfresh : ∀ q ∈ creates, V.records s q.2.uuid = none) (sched : List Nat)
    (hfin : ((config st reg creates others s f).exec sched).Finished) :
    OneCreated n (Ours reg n creates) (V.records ((config st reg creates others s f).exec sched).shared.1)
      ((config st reg creates others s f).exec sched).reqs := by
  rw [config_eq_machine st P pending done hpending hdone, Points.exec_toConfig] at hfin ⊢
  have hinv := P.withProcs.exec_induction (Q := fun c => Inv V running out n (Ours reg n creates) c ∧ E c)
    (fun c i h => hstep c i h.1 h.2) sched _
    ⟨inv_start hst reg hrpending hrdone creates others s f hkeyed hfree hunnamed hfresh hids, hE⟩
  obtain ⟨j, q, vol, hq, hv, hn⟩ := hours
  have hlen : j < (P.withProcs.exec ((s, f), start st reg pending done creates others) sched).2.length := by
    have := (List.getElem?_eq_some_iff.1 hq).1
    simp only [Points.length_exec, start, List.length_append, List.length_map]
    omega
  exact hinv.1.oneCreated P hrunning hout ⟨j, _, ⟨q, vol, hq, hv, hn⟩, List.getElem?_eq_getElem hlen⟩ hfin

end Beside

/-! ## On the memory store -/

namespace Memory

/-- Where a create is on the memory store: before its `CreateVolume`, or finished. -/
inductive Point where
  | pending (vol : Volume)
  | done (resp : Response)

namespace Point

/-- The handler's continuation at a point. -/
def toProc : Point → Proc (MemoryStore × φ) Response
  | pending vol =>
    (MemoryStore.store.createVolume vol).onFst.bind fun r => pure (VolumeHandler.createdResponse vol r)
  | done r => .done r

/-- The next atomic step at a point. -/
def move : Point → MemoryStore × φ → Option ((MemoryStore × φ) × Point)
  | pending vol, w =>
    some (((w.1.createVolume vol).2, w.2), done (VolumeHandler.createdResponse vol (w.1.createVolume vol).1))
  | done _, _ => none

/-- The record a running create is trying to make. -/
def running : Point → Option Volume
  | pending vol => some vol
  | done _ => none

/-- The answer of a finished create. -/
def out : Point → Option Response
  | pending _ => none
  | done r => some r

end Point

/-- Creates on the memory store as a machine of program points. -/
def machine : Points (MemoryStore × φ) Response Point :=
  ⟨Point.toProc, Point.move, by rintro (_ | _) _ <;> rfl⟩

/-- A running create has not finished. -/
theorem result_of_running : ∀ p vol, Point.running p = some vol → ((machine (φ := φ)).toProc p).result? = none
  | .pending _, _, _ => rfl

/-- A finished create is its answer. -/
theorem toProc_of_out : ∀ p r, Point.out p = some r → (machine (φ := φ)).toProc p = .done r
  | .done _, _, rfl => rfl

/-- The step lemma. A create finds its ID fresh: it commits when its name is free, and is refused
with `409` when it is taken. Another request's step is quiet. -/
theorem inv_stepAt {n : String} {ours : Nat → Prop}
    {c : (MemoryStore × φ) × List (Point ⊕ Proc (MemoryStore × φ) Response)}
    (h : Inv MemoryStore.view Point.running Point.out n ours c) (i : Nat) :
    Inv MemoryStore.view Point.running Point.out n ours (machine.withProcs.stepAt c i) := by
  have hrun : ∀ p vol, onCreates Point.running p = some vol → onCreates (κ := Proc (MemoryStore × φ) Response) Point.out p = none := by
    rintro ((_ | _) | _) vol hv <;> first | rfl | cases hv
  rcases machine.withProcs_stepAt_cases c i with hs | ⟨p, s, q, hp, hm, hs⟩ | ⟨u, k, hp, hs⟩
  · rwa [hs]
  · rw [hs]
    rcases p with vol | resp
    case done => cases hm
    simp only [machine, Point.move, Option.some.injEq, Prod.mk.injEq] at hm
    obtain ⟨rfl, rfl⟩ := hm
    have hnone : c.1.1.volumes.lookup vol.id = none := h.1.1.fresh i _ vol hp rfl
    by_cases hn : vol.name ∈ c.1.1.names
    · rw [MemoryStore.createVolume_of_mem_names hn]
      refine ⟨h.1.finish hrun hp rfl rfl fun he => ⟨rfl, ?_⟩, h.2.stepAt_inl (View.quiet_self _).rely⟩
      simpa [MemoryStore.view, Finmap.lookup_isSome, ← he] using hn
    · have hid : vol.id ∉ c.1.1.volumes := by rwa [← Finmap.lookup_eq_none]
      have hrec (id : String) : (c.1.1.volumes.insert vol.id vol).lookup id =
          if id = vol.id then some vol else c.1.1.volumes.lookup id := by
        split_ifs with he
        · rw [he, Finmap.lookup_insert]
        · exact Finmap.lookup_insert_of_ne _ he
      simp only [MemoryStore.createVolume, hid, hn, if_false]
      refine ⟨h.1.commit hrun hp rfl rfl rfl hrec ?_ fun he => ?_,
        h.2.stepAt_inl (View.rely_insert hnone hrec _ _)⟩
      · simp only [MemoryStore.view, Finmap.lookup_isSome, Finmap.mem_insert]
        rw [@eq_comm _ n, or_comm]
      · simpa [MemoryStore.view, Finmap.lookup_isSome, ← he] using hn
  · rw [hs]
    exact h.stepAt_inr hp

/-- The memory store's machine runs `CreateVolume` from `pending`, and its running points have not
finished. -/
theorem oneCreated (reg : Storage.Registry φ) (n : String) (creates : List (JsonObject × RequestEnv))
    (others : List Concurrent) (hours : ∃ j, Ours reg n creates j)
    (hids : (creates.map fun q => q.2.uuid).Nodup) (s : MemoryStore) (f : φ)
    (hkeyed : ∀ id r, s.volumes.lookup id = some r → r.id = id) (hfree : n ∉ s.names)
    (hunnamed : ∀ id r, s.volumes.lookup id = some r → r.name ≠ n)
    (hfresh : ∀ q ∈ creates, q.2.uuid ∉ s.volumes) (sched : List Nat)
    (hfin : ((config MemoryStore.store reg creates others s f).exec sched).Finished) :
    OneCreated n (Ours reg n creates) ((config MemoryStore.store reg creates others s f).exec sched).shared.1.volumes.lookup
      ((config MemoryStore.store reg creates others s f).exec sched).reqs :=
  oneCreated_of_step MemoryStore.calls machine Point.pending Point.done (fun _ => rfl) (fun _ => rfl)
    (fun _ => rfl) (fun _ => rfl) result_of_running toProc_of_out reg creates others (fun _ => True)
    (fun _ i h _ => ⟨inv_stepAt h i, trivial⟩) hours hids s f trivial hkeyed
    (Finmap.lookup_eq_none.2 hfree) hunnamed (fun q hq => Finmap.lookup_eq_none.2 (hfresh q hq)) sched hfin

end Memory

/-! ## On the etcd store -/

namespace OnEtcd

variable (codec : VolumeCodec)

/-- Where a create is on the etcd store: before the `Get` of the name key, at the `Txn` with the
text `json.Marshal` made of its record, or finished. -/
inductive Point where
  | pending (vol : Volume)
  | committing (vol : Volume) (data : String)
  | done (resp : Response)

/-- The conditional `Txn` of `CreateVolume` and what it returns. -/
def commit (v : Volume) (data : String) : Proc KV (Except StoreError Unit) := do
  let ok ← txn [nameKey v.name] [.put (volumeKey v.id) data, .put (nameKey v.name) v.id]
  if ok then return .ok () else return .error .alreadyExists

namespace Point

/-- The handler's continuation at a point. -/
def toProc : Point → Proc (KV × φ) Response
  | pending vol =>
    ((store codec).createVolume vol).onFst.bind fun r => pure (VolumeHandler.createdResponse vol r)
  | committing vol data =>
    (commit vol data).onFst.bind fun r => pure (VolumeHandler.createdResponse vol r)
  | done r => .done r

/-- Where the `Get` of the name key leads: a taken name ends the create with `409`, a record
`json.Marshal` refuses ends it with `500`, and otherwise it goes on to the `Txn`. -/
def afterGet (vol : Volume) (kv : KV) : Point :=
  if nameKey vol.name ∈ kv then done duplicate
  else
    match codec.marshal vol with
    | .error e => done (VolumeHandler.createdResponse vol (.error (marshalError e)))
    | .ok data => committing vol data

/-- The next atomic step at a point. -/
def move : Point → KV × φ → Option ((KV × φ) × Point)
  | pending vol, w => some (w, afterGet codec vol w.1)
  | committing vol data, w =>
    if nameKey vol.name ∈ w.1 then some (w, done duplicate)
    else some (((w.1.insert (volumeKey vol.id) data).insert (nameKey vol.name) vol.id, w.2),
      done ⟨201, .volume vol⟩)
  | done _, _ => none

/-- The record a running create is trying to make. -/
def running : Point → Option Volume
  | pending vol | committing vol _ => some vol
  | done _ => none

/-- The answer of a finished create. -/
def out : Point → Option Response
  | done r => some r
  | _ => none

/-- What a point needs of the codec: one of ours before its `Get` holds a record `json.Marshal`
writes, and one at its `Txn` holds the text `json.Marshal` made of its record. -/
def Encodes (n : String) : Point → Prop
  | pending vol => vol.name = n → codec.Writes vol
  | committing vol data => codec.marshal vol = .ok data
  | done _ => True

/-- At every point, the handler's next step is the one `move` names. -/
theorem next?_toProc (p : Point) (w : KV × φ) :
    (toProc codec p).next? w = (move codec p w).map fun r => (r.1, toProc codec r.2) := by
  rcases p with vol | ⟨vol, data⟩ | resp
  · simp only [toProc, move, afterGet, store, createVolume, Etcd.get, Proc.atomic, Proc.bind_eq,
      Proc.step_bind, Proc.done_bind, Proc.onFst_step, Proc.next?_step, Option.map_some',
      Finmap.lookup_isSome]
    split_ifs
    · rfl
    · cases codec.marshal vol <;> rfl
  · by_cases h : nameKey vol.name ∈ w.1 <;>
      simp [toProc, move, commit, txn, Proc.atomic, h, Op.apply, duplicate, VolumeHandler.createdResponse]
  · rfl

end Point

/-- Creates on the etcd store as a machine of program points. -/
def machine : Points (KV × φ) Response Point :=
  ⟨Point.toProc codec, Point.move codec, Point.next?_toProc codec⟩

/-- A running create has not finished. -/
theorem result_of_running :
    ∀ p vol, Point.running p = some vol → ((machine (φ := φ) codec).toProc p).result? = none
  | .pending _, _, _ => rfl
  | .committing _ _, _, _ => rfl

/-- A finished create is its answer. -/
theorem toProc_of_out : ∀ p r, Point.out p = some r → (machine (φ := φ) codec).toProc p = .done r
  | .done _, _, rfl => rfl

/-- Every create point knows what it needs of the codec. -/
def Encoded (n : String) (c : (KV × φ) × List (Point ⊕ Proc (KV × φ) Response)) : Prop :=
  ∀ (j : Nat) (p : Point), c.2[j]? = some (.inl p) → p.Encodes codec n

variable {codec}

/-- Every point stays encodable after replacing one by an encodable point. -/
theorem Encoded.set {n : String} {c : (KV × φ) × List (Point ⊕ Proc (KV × φ) Response)}
    (h : Encoded codec n c) {i : Nat} {w : KV × φ} {x : Point ⊕ Proc (KV × φ) Response}
    (hx : ∀ p, x = .inl p → p.Encodes codec n) : Encoded codec n (w, c.2.set i x) := by
  intro j p hj
  rcases Points.getElem?_set_cases hj with ⟨-, rfl⟩ | ⟨-, hj⟩
  · exact hx p rfl
  · exact h j p hj

/-- The step lemma. A `Get` finding the name taken ends with `409`; finding it free it goes on to
the `Txn`, or ends with `500` on a record `json.Marshal` refuses, which none of ours is. A `Txn`
finding the name taken ends with `409`, and finding it free commits. Another request's step is
quiet. -/
theorem inv_stepAt (hrt : codec.RoundTrips) {n : String} {ours : Nat → Prop}
    {c : (KV × φ) × List (Point ⊕ Proc (KV × φ) Response)}
    (h : Inv (view codec) Point.running Point.out n ours c) (he : Encoded codec n c) (i : Nat) :
    Inv (view codec) Point.running Point.out n ours ((machine codec).withProcs.stepAt c i) ∧
      Encoded codec n ((machine codec).withProcs.stepAt c i) := by
  have hrun : ∀ p vol, onCreates Point.running p = some vol →
      onCreates (κ := Proc (KV × φ) Response) Point.out p = none := by
    rintro ((_ | _ | _) | _) vol hv <;> first | rfl | cases hv
  have htaken (kv : KV) : ((view codec).index kv n).isSome = true ↔ nameKey n ∈ kv :=
    Finmap.lookup_isSome
  have hquiet (q : Point) := h.2.stepAt_inl (i := i) (q := q) (View.quiet_self c.1).rely
  have hanswered (w : KV × φ) (r : Response) : Encoded codec n (w, c.2.set i (.inl (.done r))) :=
    he.set fun _ he' => by cases he'; trivial
  rcases (machine codec).withProcs_stepAt_cases c i with hs | ⟨p, s, q, hp, hm, hs⟩ | ⟨u, k, hp, hs⟩
  · rw [hs]
    exact ⟨h, he⟩
  · rw [hs]
    have hpe := he i p hp
    rcases p with vol | ⟨vol, data⟩ | resp
    case done => cases hm
    case pending =>
      simp only [machine, Point.move, Option.some.injEq, Prod.mk.injEq] at hm
      obtain ⟨rfl, rfl⟩ := hm
      unfold Point.afterGet
      split_ifs with hk
      · exact ⟨⟨h.1.finish hrun hp rfl rfl fun hn => ⟨rfl, (htaken _).2 (hn ▸ hk)⟩, hquiet _⟩,
          hanswered _ _⟩
      split
      · next e hme =>
        refine ⟨⟨h.1.finish hrun hp rfl rfl fun hn => ?_, hquiet _⟩, hanswered _ _⟩
        obtain ⟨data, hd⟩ := hpe hn
        rw [hd] at hme
        cases hme
      · next data hmd =>
        exact ⟨⟨h.1.advance hrun hp rfl rfl, hquiet _⟩, he.set fun _ he' => by cases he'; exact hmd⟩
    case committing =>
      by_cases hk : nameKey vol.name ∈ c.1.1
      · simp only [machine, Point.move, hk, if_true, Option.some.injEq, Prod.mk.injEq] at hm
        obtain ⟨rfl, rfl⟩ := hm
        exact ⟨⟨h.1.finish hrun hp rfl rfl fun hn => ⟨rfl, (htaken _).2 (hn ▸ hk)⟩, hquiet _⟩,
          hanswered _ _⟩
      · simp only [machine, Point.move, hk, if_false, Option.some.injEq, Prod.mk.injEq] at hm
        obtain ⟨rfl, rfl⟩ := hm
        have hrec (id : String) : recordAt codec ((c.1.1.insert (volumeKey vol.id) data).insert
            (nameKey vol.name) vol.id) id = if id = vol.id then some vol else recordAt codec c.1.1 id := by
          rw [recordAt_insert_nameKey, recordAt_insert_volumeKey codec hrt hpe]
        refine ⟨⟨h.1.commit hrun hp rfl rfl rfl hrec ?_ fun hn ht => hk (hn ▸ (htaken _).1 ht),
          h.2.stepAt_inl (View.rely_insert (h.1.1.fresh i _ vol hp rfl) hrec _ _)⟩, hanswered _ _⟩
        rw [htaken, htaken, Finmap.mem_insert, Finmap.mem_insert, nameKey_inj, or_comm, @eq_comm _ n]
        simp only [nameKey_ne_volumeKey, false_or]
  · rw [hs]
    exact ⟨h.stepAt_inr hp, he.set fun _ he' => by cases he'⟩

/-- The etcd store's machine runs `CreateVolume` from `pending`; with a codec that reads back what
it writes and writes our records, one of ours is created. -/
theorem oneCreated (hrt : codec.RoundTrips) (reg : Storage.Registry φ) (n : String)
    (creates : List (JsonObject × RequestEnv)) (others : List Concurrent)
    (hours : ∃ j, Ours reg n creates j) (hids : (creates.map fun q => q.2.uuid).Nodup)
    (hw : ∀ q ∈ creates, ∀ vol, VolumeHandler.newVolume reg q.1 q.2 = .ok vol → vol.name = n →
      codec.Writes vol)
    (kv : KV) (f : φ) (hkeyed : ∀ id r, recordAt codec kv id = some r → r.id = id)
    (hfree : nameKey n ∉ kv) (hunnamed : ∀ id r, recordAt codec kv id = some r → r.name ≠ n)
    (hfresh : ∀ q ∈ creates, recordAt codec kv q.2.uuid = none) (sched : List Nat)
    (hfin : ((config (store codec) reg creates others kv f).exec sched).Finished) :
    OneCreated n (Ours reg n creates) (recordAt codec ((config (store codec) reg creates others kv f).exec sched).shared.1)
      ((config (store codec) reg creates others kv f).exec sched).reqs := by
  refine oneCreated_of_step (V := view codec) (calls codec hrt) (machine codec) Point.pending Point.done
    (fun _ => rfl) (fun _ => rfl) (fun _ => rfl) (fun _ => rfl) (result_of_running codec)
    (toProc_of_out codec) reg creates others (Encoded codec n) (fun _ i h he => inv_stepAt hrt h he i) hours hids kv f ?_ hkeyed
    (Finmap.lookup_eq_none.2 hfree) hunnamed hfresh sched hfin
  intro j p hj
  rcases start_cases hj with ⟨q, hq, he⟩ | ⟨o, he⟩
  · cases he
    unfold startWith
    split
    · next vol hv => exact hw q (List.getElem?_mem hq) vol hv
    · trivial
  · cases he

end OnEtcd

/-! ## Either store -/

/-- Two creates of `data`, as `vol-1` and `vol-2`. -/
def twoDataCreates : List (JsonObject × RequestEnv) :=
  [(Request.dataBody, ⟨"vol-1", 0, 0⟩), (Request.dataBody, ⟨"vol-2", 0, 0⟩)]

/-- A stage of `vol-1` from `node-1`. -/
def stageOne : List Concurrent := [.stage "vol-1" (Attach.stageBody "node-1" "/staging/1") ⟨"", 1, 1⟩]

/-- The memory store after `data` was created as `vol-1`. -/
def takenStore : MemoryStore :=
  ((VolumeHandler.handleCreate MemoryStore.store Attach.registry Request.dataBody ⟨"vol-1", 0, 0⟩).run
    (MemoryStore.empty, ())).2.1

/-- A body naming the local backend and a path, but no name. -/
def unnamedBody : JsonObject :=
  [("backend", .str "local"), ("parameters", .strMap ((∅ : StrMap String).insert "path" "/srv/data"))]

/-- A memory store holding, under the ID `k`, a record whose own ID is `vol-1`. -/
def misfiled : MemoryStore :=
  ⟨(∅ : StrMap Volume).insert "k" { Attach.vol1 with name := "other" }, (∅ : StrMap String).insert "other" "k"⟩

/-- The first instant of the year 10000, in nanoseconds since 1970. -/
def year10000 : Int := 253402300800000000000

end Creates

end VolumeManager
