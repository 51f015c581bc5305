import ControlPlane.Proofs.Submission

/-!
# Deployments side by side

Deployments of named manifests talk to one cluster, in any order of turns.  Between the refused
creation and the replacement of one of them the others may do what they like, so the invariant has
to say what they cannot do: no body is ever taken away (`Store.isSome_put`).

* `Settling` says where a deployment stands: it has not begun, it is about to replace a body that is
  there, or it has made its one effective exchange (`Settling.turn_cases`).
* `Written` says what the store holds: the body of the last effective exchange about a key
  (`Written.after_effective`).
* `settles` puts both together for whole runs.
-/

namespace ControlPlane

/-! ## what the cluster answers -/

namespace Store

variable {store : Store} {key : Key}

/-- A creation is refused as a conflict where there is a body, and done where there is none. -/
theorem serve_create (wording : Request → String) {namespaceName : String} {body : Wire}
    (hkey : (Request.create namespaceName body).key? = some key) :
    (∃ e, e.isConflict = true ∧ (store key).isSome ∧
      store.serve wording (.create namespaceName body) = (.error e, store)) ∨
    store.serve wording (.create namespaceName body) = (.ok (), store.put key body) := by
  unfold serve
  rw [hkey]
  cases hstore : store key with
  | none => exact .inr (by simp [hstore])
  | some old => exact .inl ⟨_, rfl, rfl, by simp [hstore]; rfl⟩

/-- A replacement is done where there is a body. -/
theorem serve_replace (wording : Request → String) {name : Option String} {namespaceName : String}
    {body : Wire} (hkey : (Request.replace name namespaceName body).key? = some key)
    (hstore : (store key).isSome) :
    store.serve wording (.replace name namespaceName body) = (.ok (), store.put key body) := by
  obtain ⟨old, hold⟩ := Option.isSome_iff_exists.mp hstore
  simp [serve, hkey, hold]

end Store

/-! ## keys of deployments -/

namespace Deployment

variable {d : Deployment} {key : Key}

/-- Both requests of a deployment are about its key: its body tells the same name. -/
theorem key?_create (d : Deployment) : (Request.create d.namespaceName d.body).key? = d.key? := by
  simp [Request.key?, key?, body]

theorem key?_replace (d : Deployment) :
    (Request.replace d.manifest.name d.namespaceName d.body).key? = d.key? := rfl

end Deployment

namespace Traffic

variable {ι : Type} [DecidableEq ι] {deployments : ι → Deployment} {t : Traffic ι} {i : ι}

/-! ## exchanges -/

section After

variable (t) (i) (e : Exchange) (store : Store) (rest : Session (Except Failure Unit))

@[simp] theorem store_after : (t.after i e store rest).store = store := rfl

@[simp] theorem sessions_after_self : (t.after i e store rest).sessions i = rest := by
  simp [after]

theorem sessions_after_of_ne {j : ι} (h : j ≠ i) :
    (t.after i e store rest).sessions j = t.sessions j := by
  simp [after, h]

theorem writeCount_after_self : (t.after i e store rest).writeCount i =
    t.writeCount i + if e.isEffective then 1 else 0 := by
  simp [writeCount, after, List.countP_append, List.countP_singleton]

theorem writeCount_after_of_ne {j : ι} (h : j ≠ i) :
    (t.after i e store rest).writeCount j = t.writeCount j := by
  have hne : i ≠ j := fun hij => h hij.symm
  simp [writeCount, after, List.countP_append, hne]

/-- An effective exchange is the last one about its key, and about no other. -/
theorem lastWriter?_after (key : Key) : (t.after i e store rest).lastWriter? key =
    if e.isEffective ∧ e.request.key? = some key then some i else t.lastWriter? key := by
  by_cases h : e.isEffective = true ∧ e.request.key? = some key
  · simp [lastWriter?, after, List.filter_append, h]
  · have hnot : (e.isEffective && e.request.key? == some key) = false := by
      rw [Bool.eq_false_iff]
      simpa using h
    rw [if_neg h]
    simp [lastWriter?, after, List.filter_append, hnot]

end After

/-! ## where a deployment stands -/

/-- Where a deployment stands behind so many turns. -/
inductive Settling (d : Deployment) (t : Traffic ι) (i : ι) : (turns : Nat) → Prop where
  | fresh (hsession : t.sessions i = d.session) (hwrites : t.writeCount i = 0) : Settling d t i 0
  | refused (hsession : t.sessions i = d.replacement) (hwrites : t.writeCount i = 0)
      (hkept : ∀ key, d.key? = some key → (t.store key).isSome) : Settling d t i 1
  | settled {turns : Nat} (hsession : t.sessions i = .done (.ok ())) (hwrites : t.writeCount i = 1) :
      Settling d t i turns

/-- A turn of a deployment does nothing any more, or runs into the conflict, or writes the body. -/
theorem Settling.turn_cases {d : Deployment} {turns : Nat} {key : Key} (h : Settling d t i turns)
    (hkey : d.key? = some key) (wording : Request → String) :
    (t.sessions i = .done (.ok ()) ∧ t.writeCount i = 1 ∧ t.turn wording i = t) ∨
    (turns = 0 ∧ t.writeCount i = 0 ∧ (t.store key).isSome ∧ ∃ e, t.turn wording i =
      t.after i ⟨.create d.namespaceName d.body, .error e⟩ t.store d.replacement) ∨
    (t.writeCount i = 0 ∧ ∃ request, request.key? = some key ∧ t.turn wording i =
      t.after i ⟨request, .ok ()⟩ (t.store.put key d.body) (.done (.ok ()))) := by
  unfold turn
  cases h with
  | fresh hsession hwrites =>
      have hcreate := d.key?_create.trans hkey
      rw [hsession, d.session_eq]
      obtain ⟨e, hconflict, hstore, hserve⟩ | hserve := Store.serve_create wording hcreate
      · refine .inr (.inl ⟨rfl, hwrites, hstore, e, ?_⟩)
        simp [hserve, hconflict]
      · refine .inr (.inr ⟨hwrites, _, hcreate, ?_⟩)
        simp [hserve]
  | refused hsession hwrites hkept =>
      have hreplace := d.key?_replace.trans hkey
      have hserve := Store.serve_replace wording hreplace (hkept key hkey)
      rw [hsession, Deployment.replacement]
      refine .inr (.inr ⟨hwrites, _, hreplace, ?_⟩)
      simp [hserve]
  | settled hsession hwrites =>
      rw [hsession]
      exact .inl ⟨rfl, hwrites, rfl⟩

/-- The others only see a store in which nothing is missing. -/
theorem Settling.of_other {d : Deployment} {turns : Nat} {j : ι} {u : Traffic ι}
    (h : Settling d t j turns) (hsession : u.sessions j = t.sessions j)
    (hwrites : u.writeCount j = t.writeCount j)
    (hstore : ∀ key, (t.store key).isSome → (u.store key).isSome) : Settling d u j turns := by
  cases h with
  | fresh hs hw => exact .fresh (hsession.trans hs) (hwrites.trans hw)
  | refused hs hw hkept =>
      exact .refused (hsession.trans hs) (hwrites.trans hw) fun key hkey =>
        hstore key (hkept key hkey)
  | settled hs hw => exact .settled (hsession.trans hs) (hwrites.trans hw)

/-- A deployment that is at its end has not failed, and has made one effective exchange. -/
theorem Settling.eq_ok_of_done {d : Deployment} {turns : Nat} (h : Settling d t i turns)
    {outcome : Except Failure Unit} (hdone : t.sessions i = .done outcome) :
    outcome = .ok () ∧ t.writeCount i = 1 := by
  cases h with
  | fresh hsession => cases hdone.symm.trans hsession
  | refused hsession => cases hdone.symm.trans hsession
  | settled hsession hwrites =>
      cases hdone.symm.trans hsession
      exact ⟨rfl, hwrites⟩

/-- Two turns are enough for a deployment. -/
theorem Settling.isDone {d : Deployment} {turns : Nat} (h : Settling d t i turns)
    (hturns : 2 ≤ turns) : t.IsDone i := by
  cases h with
  | fresh => omega
  | refused => omega
  | settled hsession => exact ⟨_, hsession⟩

/-! ## what the store holds -/

/-- The store holds the body of whoever was the last to write under a key, and under the other keys
what was there at the start; whoever has written was not the first to be forgotten. -/
structure Written (deployments : ι → Deployment) (first : Store) (t : Traffic ι) : Prop where
  last : ∀ key j, t.lastWriter? key = some j →
    (deployments j).key? = some key ∧ t.store key = some (deployments j).body
  untouched : ∀ key, t.lastWriter? key = none → t.store key = first key
  remembered : ∀ j key, (deployments j).key? = some key → t.writeCount j ≠ 0 →
    t.lastWriter? key ≠ none

variable {first : Store}

/-- A refused exchange changes nothing. -/
theorem Written.after_refused (h : Written deployments first t) (request : Request) (e : ApiError)
    (rest : Session (Except Failure Unit)) :
    Written deployments first (t.after i ⟨request, .error e⟩ t.store rest) := by
  have hlast (key : Key) :
      (t.after i ⟨request, .error e⟩ t.store rest).lastWriter? key = t.lastWriter? key := by
    rw [lastWriter?_after, if_neg (by simp [Exchange.isEffective, Except.isOk, Except.toBool])]
  have hcount (j : ι) :
      (t.after i ⟨request, .error e⟩ t.store rest).writeCount j = t.writeCount j := by
    by_cases hj : j = i
    · rw [hj, writeCount_after_self]
      simp [Exchange.isEffective, Except.isOk, Except.toBool]
    · exact writeCount_after_of_ne t i _ _ _ hj
  constructor
  · intro key j hj
    rw [hlast] at hj
    exact h.last key j hj
  · intro key hkey
    rw [hlast] at hkey
    exact h.untouched key hkey
  · intro j key hkey hwrites
    rw [hcount] at hwrites
    rw [hlast]
    exact h.remembered j key hkey hwrites

/-- An effective exchange makes its conversation the last one to write under its key. -/
theorem Written.after_effective (h : Written deployments first t) {request : Request} {key : Key}
    (hkey : (deployments i).key? = some key) (hrequest : request.key? = some key)
    (rest : Session (Except Failure Unit)) :
    Written deployments first
      (t.after i ⟨request, .ok ()⟩ (t.store.put key (deployments i).body) rest) := by
  have hlast (k : Key) :
      (t.after i ⟨request, .ok ()⟩ (t.store.put key (deployments i).body) rest).lastWriter? k =
        if k = key then some i else t.lastWriter? k := by
    rw [lastWriter?_after, hrequest]
    simp [Exchange.isEffective, Except.isOk, Except.toBool, eq_comm]
  constructor
  · intro k j hj
    rw [hlast] at hj
    by_cases hk : k = key
    · rw [if_pos hk, Option.some.injEq] at hj
      rw [← hj, hk, store_after, Store.put_self]
      exact ⟨hkey, rfl⟩
    · rw [if_neg hk] at hj
      rw [store_after, Store.put_of_ne _ _ hk]
      exact h.last k j hj
  · intro k hk
    rw [hlast] at hk
    by_cases hne : k = key
    · rw [if_pos hne] at hk
      cases hk
    · rw [if_neg hne] at hk
      rw [store_after, Store.put_of_ne _ _ hne]
      exact h.untouched k hk
  · intro j k hj hwrites
    rw [hlast]
    by_cases hk : k = key
    · simp [hk]
    · have hne : j ≠ i := by
        intro hji
        rw [hji, hkey, Option.some.injEq] at hj
        exact hk hj.symm
      rw [if_neg hk]
      rw [writeCount_after_of_ne t i _ _ _ hne] at hwrites
      exact h.remembered j k hj hwrites

/-! ## runs -/

/-- All deployments behind so many turns of each. -/
structure Consistent (deployments : ι → Deployment) (first : Store) (t : Traffic ι)
    (turns : ι → Nat) : Prop where
  settling : ∀ i, Settling (deployments i) t i (turns i)
  written : Written deployments first t

theorem consistent_start (deployments : ι → Deployment) (first : Store) :
    Consistent deployments first (start first deployments) fun _ => 0 where
  settling i := .fresh rfl rfl
  written := by constructor <;> simp [start, lastWriter?, writeCount]

/-- A turn keeps all deployments consistent. -/
theorem Consistent.turn {turns : ι → Nat} (h : Consistent deployments first t turns)
    (hnamed : ∀ i, (deployments i).key?.isSome) (wording : Request → String) (i : ι) :
    Consistent deployments first (t.turn wording i) fun j =>
      if j = i then turns j + 1 else turns j := by
  obtain ⟨key, hkey⟩ := Option.isSome_iff_exists.mp (hnamed i)
  obtain ⟨hsession, hwrites, hturn⟩ | ⟨hturns, hwrites, hstore, e, hturn⟩ |
    ⟨hwrites, request, hrequest, hturn⟩ := (h.settling i).turn_cases hkey wording
  · rw [hturn]
    constructor
    · intro j
      by_cases hj : j = i
      · rw [hj]
        exact .settled hsession hwrites
      · rw [if_neg hj]
        exact h.settling j
    · exact h.written
  · rw [hturn]
    constructor
    · intro j
      by_cases hj : j = i
      · rw [hj, if_pos rfl, hturns]
        refine .refused (sessions_after_self ..) ?_ fun k hk => ?_
        · rw [writeCount_after_self, hwrites]
          rfl
        · rw [hkey, Option.some.injEq] at hk
          rwa [← hk]
      · rw [if_neg hj]
        exact (h.settling j).of_other (sessions_after_of_ne t i _ _ _ hj)
          (writeCount_after_of_ne t i _ _ _ hj) fun _ hk => hk
    · exact h.written.after_refused _ e _
  · rw [hturn]
    constructor
    · intro j
      by_cases hj : j = i
      · rw [hj]
        refine .settled (sessions_after_self ..) ?_
        rw [writeCount_after_self, hwrites]
        rfl
      · rw [if_neg hj]
        exact (h.settling j).of_other (sessions_after_of_ne t i _ _ _ hj)
          (writeCount_after_of_ne t i _ _ _ hj) fun k hk => Store.isSome_put hk key _
    · exact h.written.after_effective hkey hrequest _

/-- So do any turns. -/
theorem consistent_run (hnamed : ∀ i, (deployments i).key?.isSome) (wording : Request → String)
    (first : Store) (turns : List ι) :
    Consistent deployments first ((start first deployments).run wording turns) turns.count := by
  induction turns using List.reverseRecOn with
  | nil => exact consistent_start deployments first
  | append_singleton turns i ih =>
      rw [run, List.foldl_append]
      have hturn := ih.turn hnamed wording i
      have hcount : (turns ++ [i]).count =
          fun j => if j = i then turns.count j + 1 else turns.count j := by
        funext j
        rw [List.count_append]
        by_cases hj : j = i
        · simp [hj]
        · have hne : i ≠ j := fun hij => hj hij.symm
          simp [hj, hne]
      rw [hcount]
      exact hturn

/-! ## main result -/

/-- Deployments of named manifests, in any order of turns, do not fail, and two turns are enough for
each.  When all are at their ends, each has made one effective exchange, every key that one of them
is about holds the body of the one that wrote last, and the other keys hold what they did. -/
theorem settles (hnamed : ∀ i, (deployments i).key?.isSome) (wording : Request → String)
    (first : Store) (turns : List ι) :
    let t := (start first deployments).run wording turns
    (∀ i outcome, t.sessions i = .done outcome → outcome = .ok ()) ∧
    (∀ i, 2 ≤ turns.count i → t.IsDone i) ∧
    ((∀ i, t.IsDone i) →
      (∀ i, t.writeCount i = 1) ∧
      (∀ i key, (deployments i).key? = some key → ∃ j, t.lastWriter? key = some j ∧
        (deployments j).key? = some key ∧ t.store key = some (deployments j).body) ∧
      ∀ key, (∀ i, (deployments i).key? ≠ some key) → t.store key = first key) := by
  intro t
  obtain ⟨hsettling, hwritten⟩ := consistent_run hnamed wording first turns
  have hdone (i : ι) (outcome : Except Failure Unit) (h : t.sessions i = .done outcome) :=
    (hsettling i).eq_ok_of_done h
  refine ⟨fun i outcome h => (hdone i outcome h).1, fun i hturns => (hsettling i).isDone hturns,
    fun hall => ⟨?_, ?_, ?_⟩⟩
  · intro i
    obtain ⟨outcome, h⟩ := hall i
    exact (hdone i outcome h).2
  · intro i key hkey
    obtain ⟨outcome, h⟩ := hall i
    have hwrites : t.writeCount i ≠ 0 := by rw [(hdone i outcome h).2]; decide
    obtain ⟨j, hj⟩ := Option.ne_none_iff_exists'.mp (hwritten.remembered i key hkey hwrites)
    exact ⟨j, hj, hwritten.last key j hj⟩
  · intro key hother
    cases hlast : t.lastWriter? key with
    | none => exact hwritten.untouched key hlast
    | some j => exact absurd (hwritten.last key j hlast).1 (hother j)

/-- Two deployments of one name and one of another. -/
def rivals (i : Fin 3) : Deployment where
  manifest := { metadata.name := some (if i = 2 then "db" else "web"), spec.replicas := some i }
  namespaceName := "mesh"

/-- Both rivals run into the body that is there, and the one that replaces it last prevails. -/
theorem settles_rivals :
    let web : Key := ⟨"mesh", "web"⟩
    let first : Store := fun key => if key = web then some .null else none
    let t := (start first rivals).run (fun _ => "") [0, 1, 1, 0, 2, 2]
    (∀ i, (rivals i).key?.isSome) ∧ (∀ i, t.sessions i = .done (.ok ())) ∧
      (∀ i, t.writeCount i = 1) ∧ t.lastWriter? web = some 0 ∧
      t.store web = some (rivals 0).body ∧ t.store ⟨"mesh", "cache"⟩ = none := by
  intro web first t
  have hnamed : ∀ i, (rivals i).key?.isSome := by decide
  obtain ⟨hok, hdone, hfinal⟩ := settles hnamed (fun _ => "") first [0, 1, 1, 0, 2, 2]
  have hturns : ∀ i : Fin 3, 2 ≤ List.count i [0, 1, 1, 0, 2, 2] := by decide
  have hall (i : Fin 3) : t.IsDone i := hdone i (hturns i)
  obtain ⟨hwrites, hlast, hother⟩ := hfinal hall
  have hwriter : t.lastWriter? web = some 0 := by decide +kernel
  refine ⟨hnamed, fun i => ?_, hwrites, hwriter, ?_, hother _ (by decide)⟩
  · obtain ⟨outcome, h⟩ := hall i
    rw [h, hok i outcome h]
  · obtain ⟨j, hj, -, hstore⟩ := hlast 0 web (by decide)
    rw [hwriter, Option.some.injEq] at hj
    rw [hstore, ← hj]

end Traffic

end ControlPlane
