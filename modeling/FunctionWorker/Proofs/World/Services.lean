/-
Services that are asked for in scopes which are opened and disposed of in any order. A singleton is the one instance
that was registered, in every scope and at any time. A scoped service is made when it is first asked for in a scope
that is open, and is the same from then on; another scope has another. A scope that has been disposed of makes
nothing and gives nothing but singletons, and its disposal is of no consequence for any other. What a factory makes
is kept, but not that it ran: one that panics runs again for the same scope.
-/
import FunctionWorker.Proofs.Entries
import FunctionWorker.Proofs.Session
import FunctionWorker.Services
import Mathlib.Data.List.Induction

namespace FunctionWorker.Services

/-! ## Registrations -/

inductive Registration where
  | singleton (type : String) (value : Datum)
  | factory (type : String) (make : Nat → Except Panic Datum)

namespace Registration

def add (r : ServiceRegistrations) : Registration → ServiceRegistrations
  | .singleton type value => r.addSingleton type value
  | .factory type make => r.addScoped type make

/-- A later registration of the same kind for the same type replaces an earlier one. -/
def key : Registration → Bool × String
  | .singleton type _ => (true, type)
  | .factory type _ => (false, type)

end Registration

/-- What comes of registrations, one after another. -/
def registered (regs : List Registration) : ServiceRegistrations := regs.foldl Registration.add {}

/-- A registration counts unless a later one replaces it. -/
def Counts (regs : List Registration) (x : Registration) : Prop :=
  ∃ before after, regs = before ++ x :: after ∧ ∀ y ∈ after, y.key ≠ x.key

/-! ## Calls -/

inductive Call where
  | createScope
  | resolve (scope : ScopeId) (type : String)
  | dispose (scope : ScopeId)

def Call.creates : Call → Bool
  | .createScope => true
  | _ => false

inductive Reply where
  | scope (id : ScopeId)
  /-- A service, if there is one, or the panic of its factory. -/
  | service (r : Except Panic (Option ServiceInstance))
  | done

def call (s : Services) : Call → Reply × Services
  | .createScope => (.scope s.openScope.1, s.openScope.2)
  | .resolve scope type => (.service (s.resolve scope type).1, (s.resolve scope type).2)
  | .dispose scope => (.done, s.dispose scope)

abbrev Called := Answered Services Call Reply

/-- How many scopes have been opened, which are numbered in this order. -/
def opened (past : List Called) : Nat := past.countP (·.request.creates)

/-- A scope has been disposed of. -/
def ClosedIn (past : List Called) (scope : ScopeId) : Prop :=
  ∃ p ∈ past, p.request = .dispose scope ∧ scope < p.before.scopes.length

/-- Whether a type has no singleton. -/
def Scoped (regs : List Registration) (type : String) : Prop := ∀ value, ¬ Counts regs (.singleton type value)

/-- A scoped service has been given out in a scope. -/
def GivenIn (regs : List Registration) (past : List Called) (scope : ScopeId) (type : String) (i : ServiceInstance) :
    Prop := Scoped regs type ∧ ∃ p ∈ past, p.request = .resolve scope type ∧ p.reply = .service (.ok (some i))

/-- How a call is answered after others, and the type whose factory runs for it. -/
inductive Answers (regs : List Registration) (past : List Called) (s : Services) :
    Call → Reply → Option String → Prop
  | created : Answers regs past s .createScope (.scope (opened past)) none
  | singleton {scope type i} (hcounts : Counts regs (.singleton type i.value))
      (hplace : (registered regs).singleton? type = some i) :
      Answers regs past s (.resolve scope type) (.service (.ok (some i))) none
  | given {scope type i} (hopen : ¬ ClosedIn past scope) (hgiven : GivenIn regs past scope type i) :
      Answers regs past s (.resolve scope type) (.service (.ok (some i))) none
  | made {scope type make i} (hscoped : Scoped regs type) (hcounts : Counts regs (.factory type make))
      (hopened : scope < opened past) (hopen : ¬ ClosedIn past scope)
      (hnew : ∀ i, ¬ GivenIn regs past scope type i) (hmake : make (s.runs.count type) = .ok i.value) :
      Answers regs past s (.resolve scope type) (.service (.ok (some i))) (some type)
  | panicked {scope type make x} (hscoped : Scoped regs type) (hcounts : Counts regs (.factory type make))
      (hopened : scope < opened past) (hopen : ¬ ClosedIn past scope)
      (hnew : ∀ i, ¬ GivenIn regs past scope type i) (hmake : make (s.runs.count type) = .error x) :
      Answers regs past s (.resolve scope type) (.service (.error x)) (some type)
  | closed {scope type} (hscoped : Scoped regs type) (hclosed : ClosedIn past scope) :
      Answers regs past s (.resolve scope type) (.service (.ok none)) none
  | unopened {scope type} (hscoped : Scoped regs type) (hopened : opened past ≤ scope) :
      Answers regs past s (.resolve scope type) (.service (.ok none)) none
  | unregistered {scope type} (hscoped : Scoped regs type) (hnone : ∀ make, ¬ Counts regs (.factory type make)) :
      Answers regs past s (.resolve scope type) (.service (.ok none)) none
  | disposed {scope} : Answers regs past s (.dispose scope) .done none

/-- What holds of a call that was made after others. -/
structure Orderly (regs : List Registration) (past : List Called) (m : Called) : Prop where
  /-- The answer tells what was called before. -/
  answers : ∃ ran : Option String,
    Answers regs past m.before m.request m.reply ran ∧ m.after.runs = ran.toList ++ m.before.runs
  /-- No factory runs that has been run for the same scope, unless each time it panicked. -/
  once : ∀ scope type, m.request = .resolve scope type → m.after.runs ≠ m.before.runs →
    ∀ p ∈ past, p.request = .resolve scope type →
      p.after.runs = p.before.runs ∨ ∃ x, p.reply = .service (.error x)
  /-- What has been given out in a scope is given out again, and no factory runs, until the scope is disposed of. -/
  kept : ∀ scope type i, GivenIn regs past scope type i → ¬ ClosedIn past scope → m.request = .resolve scope type →
    m.reply = .service (.ok (some i)) ∧ m.after.runs = m.before.runs
  /-- In a scope, a scoped service is always the same. -/
  same : ∀ scope type i j, GivenIn regs (past ++ [m]) scope type i → GivenIn regs (past ++ [m]) scope type j → i = j
  /-- A scoped service is that of one scope alone. -/
  own : ∀ scope scope' type type' i j, GivenIn regs (past ++ [m]) scope type i →
    GivenIn regs (past ++ [m]) scope' type' j → i.serial = j.serial → scope = scope' ∧ type = type'
  /-- No scoped service is a singleton. -/
  apart : ∀ scope type type' i j, GivenIn regs (past ++ [m]) scope type i →
    (registered regs).singleton? type' = some j → i.serial ≠ j.serial
  /-- A disposal is of no consequence for other scopes and for one that has been disposed of before. -/
  undisturbed : ∀ scope other type, m.request = .dispose scope → other ≠ scope ∨ ClosedIn past other →
    (m.after.resolve other type).1 = (m.before.resolve other type).1

variable {regs : List Registration} {past : List Called} {m : Called} {s : Services} {sc : ServiceScope}
  {scope other : ScopeId} {type : String} {i : ServiceInstance}

/-! ## What is registered -/

theorem counts_concat {x y : Registration} :
    Counts (regs ++ [x]) y ↔ y = x ∨ Counts regs y ∧ x.key ≠ y.key := by
  constructor
  · rintro ⟨before, after, hregs, hafter⟩
    rcases List.eq_nil_or_concat after with rfl | ⟨after, z, rfl⟩
    · left
      exact (List.append_inj_right' hregs rfl |> List.singleton_inj.1).symm
    · right
      rw [List.concat_eq_append, ← List.cons_append, ← List.append_assoc] at hregs
      obtain ⟨rfl, hz⟩ := List.append_inj' hregs rfl
      obtain rfl := List.singleton_inj.1 hz
      refine ⟨⟨before, after, rfl, fun y hy => hafter y ?_⟩, hafter x ?_⟩
      · simp [hy]
      · simp
  · rintro (rfl | ⟨⟨before, after, rfl, hafter⟩, hkey⟩)
    · exact ⟨regs, [], rfl, by simp⟩
    · refine ⟨before, after ++ [x], by simp, fun z hz => ?_⟩
      rcases List.mem_append.1 hz with hz | hz
      · exact hafter z hz
      · rwa [List.mem_singleton.1 hz]

theorem registered_concat (regs : List Registration) (x : Registration) :
    registered (regs ++ [x]) = Registration.add (registered regs) x := List.foldl_concat ..

/-- What is looked up is what counts. -/
theorem lookup_registered (regs : List Registration) (type : String) :
    (∀ value, (registered regs).singletons.lookup type = some value ↔ Counts regs (.singleton type value)) ∧
    (∀ make, (registered regs).factories.lookup type = some make ↔ Counts regs (.factory type make)) := by
  induction regs using List.reverseRecOn with
  | nil => simp [registered, Counts]
  | append_singleton regs x ih =>
    obtain ⟨hsingleton, hfactory⟩ := ih
    rw [registered_concat]
    simp only [counts_concat]
    cases x with
    | singleton key value =>
      constructor
      · intro value'
        simp only [Registration.add, ServiceRegistrations.addSingleton, Entries.lookup_put]
        by_cases h : type = key
        · simp [h, Registration.key, eq_comm]
        · have hne : key ≠ type := fun h' => h h'.symm
          simp [h, hne, Registration.key, hsingleton]
      · intro make
        simpa [Registration.add, ServiceRegistrations.addSingleton, Registration.key] using hfactory make
    | factory key make =>
      constructor
      · intro value
        simpa [Registration.add, ServiceRegistrations.addScoped, Registration.key] using hsingleton value
      · intro make'
        simp only [Registration.add, ServiceRegistrations.addScoped, Entries.lookup_put]
        by_cases h : type = key
        · simp [h, Registration.key, eq_comm]
        · have hne : key ≠ type := fun h' => h h'.symm
          simp [h, hne, Registration.key, hfactory]

/-- The value of a singleton is what is looked up. -/
theorem singleton?_value (r : ServiceRegistrations) (type : String) :
    (r.singleton? type).map (·.value) = r.singletons.lookup type := by
  unfold ServiceRegistrations.singleton?
  rw [Entries.lookup_eq_place]
  cases r.singletons.findIdx? (·.1 == type) with
  | none => rfl
  | some k =>
    dsimp only [Option.bind_some]
    rw [Option.map_map]
    rfl

theorem serial_lt {r : ServiceRegistrations} (h : r.singleton? type = some i) : i.serial < r.singletons.length := by
  unfold ServiceRegistrations.singleton? at h
  split at h
  · obtain ⟨e, he, rfl⟩ := Option.map_eq_some_iff.1 h
    exact (List.getElem?_eq_some_iff.1 he).1
  · cases h

/-- A type either has a singleton, the one that counts, or is scoped. -/
theorem singleton_or_scoped (regs : List Registration) (type : String) :
    (∃ i, (registered regs).singleton? type = some i ∧ Counts regs (.singleton type i.value)) ∨
      (registered regs).singleton? type = none ∧ Scoped regs type := by
  have hvalue := singleton?_value (registered regs) type
  have hlookup := (lookup_registered regs type).1
  cases h : (registered regs).singleton? type with
  | some i =>
    rw [h] at hvalue
    exact .inl ⟨i, rfl, (hlookup _).1 hvalue.symm⟩
  | none =>
    rw [h] at hvalue
    refine .inr ⟨rfl, fun value hcounts => ?_⟩
    cases hvalue.trans ((hlookup value).2 hcounts)

/-! ## One call -/

/-- The service that a factory makes next. -/
def next (s : Services) (value : Datum) : ServiceInstance :=
  ⟨s.registrations.singletons.length + s.runs.length, value⟩

section Resolve

variable (hnone : s.registrations.singleton? type = none)

theorem resolve_singleton (h : s.registrations.singleton? type = some i) : s.resolve scope type = (.ok (some i), s) := by
  unfold resolve
  rw [h]

include hnone

theorem resolve_unopened (hscope : s.scopes[scope]? = none) : s.resolve scope type = (.ok none, s) := by
  unfold resolve
  rw [hnone, hscope]

theorem resolve_unregistered (hfactory : s.registrations.factories.lookup type = none) :
    s.resolve scope type = (.ok none, s) := by
  unfold resolve
  rw [hnone, hfactory]
  cases s.scopes[scope]? <;> rfl

theorem resolve_closed (hscope : s.scopes[scope]? = some sc) (hdisposals : sc.disposals ≠ 0) :
    s.resolve scope type = (.ok none, s) := by
  unfold resolve
  rw [hnone, hscope]
  cases s.registrations.factories.lookup type with
  | none => rfl
  | some make => exact if_pos hdisposals

section Opened

variable {make : Nat → Except Panic Datum} (hfactory : s.registrations.factories.lookup type = some make)
  (hscope : s.scopes[scope]? = some sc) (hdisposals : sc.disposals = 0)

include hfactory hscope hdisposals

theorem resolve_given (hgiven : sc.instances.lookup type = some i) :
    s.resolve scope type = (.ok (some i), s) := by
  unfold resolve
  rw [hnone, hscope, hfactory]
  simp [hdisposals, hgiven]

theorem resolve_panicked {x : Panic} (hnew : sc.instances.lookup type = none)
    (hmake : make (s.runs.count type) = .error x) :
    s.resolve scope type = (.error x, { s with runs := type :: s.runs }) := by
  unfold resolve
  rw [hnone, hscope, hfactory]
  simp [hdisposals, hnew, hmake]

theorem resolve_made {value : Datum} (hnew : sc.instances.lookup type = none)
    (hmake : make (s.runs.count type) = .ok value) :
    s.resolve scope type = (.ok (some (s.next value)),
      { s with
        runs := type :: s.runs
        scopes := s.scopes.set scope { sc with instances := sc.instances ++ [(type, s.next value)] } }) := by
  unfold resolve
  rw [hnone, hscope, hfactory]
  simp [hdisposals, hnew, hmake, next]

end Opened

end Resolve

/-! ## How services stand -/

/-- How a scope stands after calls. -/
inductive ScopeStands (regs : List Registration) (past : List Called) (s : Services) (scope : ScopeId) : Prop
  | unopened (hscope : s.scopes[scope]? = none) (hopen : ¬ ClosedIn past scope)
      (hgiven : ∀ type i, ¬ GivenIn regs past scope type i)
  | live {sc : ServiceScope} (hscope : s.scopes[scope]? = some sc) (hopen : ¬ ClosedIn past scope)
      (hdisposals : sc.disposals = 0)
      (hgiven : ∀ type i, sc.instances.lookup type = some i ↔ GivenIn regs past scope type i)
  | closed {sc : ServiceScope} (hscope : s.scopes[scope]? = some sc) (hclosed : ClosedIn past scope)
      (hdisposals : sc.disposals ≠ 0)

/-- How services stand after calls. -/
structure Stands (regs : List Registration) (past : List Called) (s : Services) : Prop where
  registrations : s.registrations = registered regs
  opened : s.scopes.length = opened past
  scopes : ∀ scope, ScopeStands regs past s scope
  same : ∀ {scope type i j}, GivenIn regs past scope type i → GivenIn regs past scope type j → i = j
  own : ∀ {scope scope' type type' i j}, GivenIn regs past scope type i → GivenIn regs past scope' type' j →
    i.serial = j.serial → scope = scope' ∧ type = type'
  serials : ∀ {scope type i}, GivenIn regs past scope type i →
    (registered regs).singletons.length ≤ i.serial ∧
      i.serial < (registered regs).singletons.length + s.runs.length
  factories : ∀ {scope type i}, GivenIn regs past scope type i → ∃ make, Counts regs (.factory type make)
  ran : ∀ p ∈ past, ∀ scope type, p.request = .resolve scope type → p.after.runs ≠ p.before.runs →
    (∃ i, GivenIn regs past scope type i) ∨ ∃ x, p.reply = .service (.error x)

theorem opened_append : opened (past ++ [m]) = opened past + if m.request.creates then 1 else 0 := by
  unfold opened
  rw [List.countP_append, List.countP_singleton]

theorem closedIn_append : ClosedIn (past ++ [m]) scope ↔
    ClosedIn past scope ∨ m.request = .dispose scope ∧ scope < m.before.scopes.length := by
  unfold ClosedIn
  simp only [List.mem_append, List.mem_singleton, or_and_right, exists_or, exists_eq_left]

theorem givenIn_append : GivenIn regs (past ++ [m]) scope type i ↔
    GivenIn regs past scope type i ∨
      Scoped regs type ∧ m.request = .resolve scope type ∧ m.reply = .service (.ok (some i)) := by
  unfold GivenIn
  simp only [List.mem_append, List.mem_singleton, or_and_right, exists_or, exists_eq_left, and_or_left]

theorem stands_start (regs : List Registration) : Stands regs [] { registrations := registered regs } := by
  have hgiven : ∀ scope type i, ¬ GivenIn regs [] scope type i := by simp [GivenIn]
  constructor
  case registrations => rfl
  case opened => rfl
  case scopes => exact fun scope => .unopened rfl (by simp [ClosedIn]) (hgiven scope)
  case same => exact fun h => absurd h (hgiven _ _ _)
  case own => exact fun h => absurd h (hgiven _ _ _)
  case serials => exact fun h => absurd h (hgiven _ _ _)
  case factories => exact fun h => absurd h (hgiven _ _ _)
  case ran => simp

/-- A call for which no factory runs, or one that panics. -/
def Quiet (m : Called) : Prop :=
  m.after.runs = m.before.runs ∨ ∃ x type, m.reply = .service (.error x) ∧ m.after.runs = type :: m.before.runs

theorem Quiet.length_le (h : Quiet m) : m.before.runs.length ≤ m.after.runs.length := by
  rcases h with h | ⟨x, type, -, h⟩
  · exact h.symm ▸ Nat.le_refl _
  · simp [h]

/-- A call for which nothing is made gives nothing out that has not been given out. -/
theorem Stands.quiet (h : Stands regs past m.before) (hregistrations : m.after.registrations = m.before.registrations)
    (hruns : Quiet m) (hopened : m.after.scopes.length = Services.opened (past ++ [m]))
    (hgiven : ∀ {scope type i}, GivenIn regs (past ++ [m]) scope type i → GivenIn regs past scope type i)
    (hscopes : ∀ scope, ScopeStands regs (past ++ [m]) m.after scope) : Stands regs (past ++ [m]) m.after := by
  constructor
  case registrations => rw [hregistrations, h.registrations]
  case opened => exact hopened
  case scopes => exact hscopes
  case same => exact fun hi hj => h.same (hgiven hi) (hgiven hj)
  case own => exact fun hi hj => h.own (hgiven hi) (hgiven hj)
  case serials =>
    intro scope type i hi
    have hserials := h.serials (hgiven hi)
    have hle := hruns.length_le
    omega
  case factories => exact fun hi => h.factories (hgiven hi)
  case ran =>
    intro p hp scope type hrequest hran
    rcases List.mem_append.1 hp with hp | hp
    · exact (h.ran p hp scope type hrequest hran).imp_left fun ⟨i, hi⟩ => ⟨i, givenIn_append.2 (.inl hi)⟩
    · rw [List.mem_singleton.1 hp] at hran ⊢
      rcases hruns with hsame | ⟨x, -, hpanicked, -⟩
      · exact absurd hsame hran
      · exact .inr ⟨x, hpanicked⟩

theorem ScopeStands.congr {past' : List Called} {s' : Services} (h : ScopeStands regs past s scope)
    (hscope : s'.scopes[scope]? = s.scopes[scope]?) (hclosed : ClosedIn past' scope ↔ ClosedIn past scope)
    (hgiven : ∀ type i, GivenIn regs past' scope type i ↔ GivenIn regs past scope type i) :
    ScopeStands regs past' s' scope := by
  cases h with
  | unopened hnone hopen hnew =>
    exact .unopened (hscope.trans hnone) (mt hclosed.1 hopen) fun type i => mt (hgiven type i).1 (hnew type i)
  | live hsome hopen hdisposals hinstances =>
    exact .live (hscope.trans hsome) (mt hclosed.1 hopen) hdisposals fun type i =>
      (hinstances type i).trans (hgiven type i).symm
  | closed hsome hclosed' hdisposals => exact .closed (hscope.trans hsome) (hclosed.2 hclosed') hdisposals

/-- Only a request for a service gives one out. -/
theorem givenIn_of_not_resolve (h : ∀ scope type, m.request ≠ .resolve scope type) (scope : ScopeId) (type : String)
    (i : ServiceInstance) : GivenIn regs (past ++ [m]) scope type i ↔ GivenIn regs past scope type i :=
  givenIn_append.trans (or_iff_left fun ⟨_, hrequest, _⟩ => h scope type hrequest)

theorem closedIn_of_not_dispose (h : ∀ scope, m.request ≠ .dispose scope) (scope : ScopeId) :
    ClosedIn (past ++ [m]) scope ↔ ClosedIn past scope :=
  closedIn_append.trans (or_iff_left fun ⟨hrequest, _⟩ => h scope hrequest)

theorem opened_of_not_create (h : m.request.creates = false) :
    Services.opened (past ++ [m]) = Services.opened past := by
  rw [opened_append, h]
  rfl

/-- A service that is not made now leaves everything as it stands. -/
theorem Stands.asked (h : Stands regs past m.before) (hrequest : m.request = .resolve scope type)
    (hafter : m.after = { m.before with runs := m.after.runs }) (hruns : Quiet m)
    (hreply : ∀ i, m.reply = .service (.ok (some i)) → Scoped regs type → GivenIn regs past scope type i) :
    Stands regs (past ++ [m]) m.after := by
  have hgiven : ∀ other type' i, GivenIn regs (past ++ [m]) other type' i ↔ GivenIn regs past other type' i := by
    intro other type' i
    refine givenIn_append.trans (or_iff_left_of_imp ?_)
    rintro ⟨hscoped, hrequest', hi⟩
    rw [hrequest] at hrequest'
    cases hrequest'
    exact hreply i hi hscoped
  have hclosed : ∀ other, ClosedIn (past ++ [m]) other ↔ ClosedIn past other :=
    closedIn_of_not_dispose (by simp [hrequest])
  apply h.quiet
  case hregistrations => rw [hafter]
  case hruns => exact hruns
  case hopened => rw [hafter, h.opened, opened_of_not_create (by rw [hrequest]; rfl)]
  case hgiven => exact fun hi => (hgiven _ _ _).1 hi
  case hscopes => exact fun other => (h.scopes other).congr (by rw [hafter]) (hclosed other) (hgiven other)

theorem Stands.created (h : Stands regs past m.before) (hrequest : m.request = .createScope)
    (hafter : m.after = m.before.openScope.2) : Stands regs (past ++ [m]) m.after := by
  have hscopes : m.after.scopes = m.before.scopes ++ [({} : ServiceScope)] := by
    rw [hafter]
    rfl
  have hgiven : ∀ other type i, GivenIn regs (past ++ [m]) other type i ↔ GivenIn regs past other type i :=
    givenIn_of_not_resolve (by simp [hrequest])
  have hclosed : ∀ other, ClosedIn (past ++ [m]) other ↔ ClosedIn past other :=
    closedIn_of_not_dispose (by simp [hrequest])
  apply h.quiet
  case hregistrations =>
    rw [hafter]
    rfl
  case hruns =>
    left
    rw [hafter]
    rfl
  case hopened =>
    rw [hscopes, List.length_append, h.opened, opened_append, hrequest]
    rfl
  case hgiven => exact fun hi => (hgiven _ _ _).1 hi
  case hscopes =>
    intro other
    by_cases hnew : other = m.before.scopes.length
    · subst hnew
      cases h.scopes m.before.scopes.length with
      | unopened _ hopen hnone =>
        have hnew : m.after.scopes[m.before.scopes.length]? = some {} := by simp [hscopes]
        refine .live hnew (mt (hclosed _).1 hopen) rfl fun type i => ?_
        rw [hgiven]
        exact iff_of_false nofun (hnone type i)
      | live hsome | closed hsome => simp at hsome
    · refine (h.scopes other).congr ?_ (hclosed other) (hgiven other)
      rw [hscopes]
      rcases Nat.lt_or_gt_of_ne hnew with hlt | hgt
      · exact List.getElem?_append_left hlt
      · rw [List.getElem?_eq_none (by simp; omega), List.getElem?_eq_none (by omega)]

theorem dispose_scopes (s : Services) (scope other : ScopeId) : (s.dispose scope).scopes[other]? =
    if scope = other then s.scopes[other]?.map fun sc => ⟨[], sc.disposals + 1⟩ else s.scopes[other]? := by
  unfold dispose
  by_cases hother : scope = other
  · subst hother
    cases hscope : s.scopes[scope]? with
    | none => simp [hscope]
    | some sc =>
      have hlt := (List.getElem?_eq_some_iff.1 hscope).1
      simp [hlt]
  · cases hscope : s.scopes[scope]? with
    | none => simp [hother]
    | some sc => simp [hother]

theorem dispose_rest (s : Services) (scope : ScopeId) :
    (s.dispose scope).registrations = s.registrations ∧ (s.dispose scope).runs = s.runs ∧
      (s.dispose scope).scopes.length = s.scopes.length := by
  unfold dispose
  cases s.scopes[scope]? with
  | none => exact ⟨rfl, rfl, rfl⟩
  | some sc => exact ⟨rfl, rfl, List.length_set⟩

theorem Stands.disposed (h : Stands regs past m.before) (hrequest : m.request = .dispose scope)
    (hafter : m.after = m.before.dispose scope) : Stands regs (past ++ [m]) m.after := by
  obtain ⟨hregistrations, hruns, hlength⟩ := dispose_rest m.before scope
  have hgiven : ∀ other type i, GivenIn regs (past ++ [m]) other type i ↔ GivenIn regs past other type i :=
    givenIn_of_not_resolve (by simp [hrequest])
  apply h.quiet
  case hregistrations => rw [hafter, hregistrations]
  case hruns => exact .inl (by rw [hafter, hruns])
  case hopened => rw [hafter, hlength, h.opened, opened_of_not_create (by rw [hrequest]; rfl)]
  case hgiven => exact fun hi => (hgiven _ _ _).1 hi
  case hscopes =>
    intro other
    have hscopes := dispose_scopes m.before scope other
    rw [← hafter] at hscopes
    cases hold : m.before.scopes[other]? with
    | none =>
      have hclosed : ClosedIn (past ++ [m]) other ↔ ClosedIn past other := by
        refine closedIn_append.trans (or_iff_left fun ⟨_, hlt⟩ => ?_)
        exact absurd hlt (Nat.not_lt.2 (List.getElem?_eq_none_iff.1 hold))
      refine (h.scopes other).congr ?_ hclosed (hgiven other)
      rw [hscopes, hold]
      split <;> rfl
    | some sc =>
      have hlt := (List.getElem?_eq_some_iff.1 hold).1
      by_cases hother : scope = other
      · subst hother
        rw [if_pos rfl, hold] at hscopes
        exact .closed hscopes (closedIn_append.2 (.inr ⟨hrequest, hlt⟩)) (Nat.succ_ne_zero _)
      · rw [if_neg hother] at hscopes
        refine (h.scopes other).congr hscopes (closedIn_append.trans (or_iff_left ?_)) (hgiven other)
        rintro ⟨hrequest', -⟩
        rw [hrequest] at hrequest'
        cases hrequest'
        exact hother rfl

/-! ## A service that is made -/

/-- A call for which a service is made: it is new, and is kept for its scope. -/
structure Makes (regs : List Registration) (past : List Called) (m : Called) (scope : ScopeId) (type : String)
    (make : Nat → Except Panic Datum) (value : Datum) (sc : ServiceScope) : Prop where
  isScoped : Scoped regs type
  counts : Counts regs (.factory type make)
  found : m.before.scopes[scope]? = some sc
  opened : ¬ ClosedIn past scope
  disposals : sc.disposals = 0
  instances : ∀ type i, sc.instances.lookup type = some i ↔ GivenIn regs past scope type i
  new : sc.instances.lookup type = none
  makes : make (m.before.runs.count type) = .ok value
  request : m.request = .resolve scope type
  reply : m.reply = .service (.ok (some (m.before.next value)))
  after : m.after = { m.before with
    runs := type :: m.before.runs
    scopes := m.before.scopes.set scope { sc with instances := sc.instances ++ [(type, m.before.next value)] } }

section Makes

variable {make : Nat → Except Panic Datum} {value : Datum} {type' : String}
  (hm : Makes regs past m scope type make value sc)

include hm

theorem Makes.notGiven (i : ServiceInstance) : ¬ GivenIn regs past scope type i := by
  intro hi
  have hnew := hm.new
  rw [(hm.instances type i).2 hi] at hnew
  cases hnew

/-- What has been given out afterwards is what was given out before and the service that is made. -/
theorem Makes.given : GivenIn regs (past ++ [m]) other type' i ↔
    GivenIn regs past other type' i ∨ other = scope ∧ type' = type ∧ i = m.before.next value := by
  rw [givenIn_append, hm.request, hm.reply]
  constructor
  · rintro (hi | ⟨-, hrequest, hi⟩)
    · exact .inl hi
    · cases hrequest
      cases hi
      exact .inr ⟨rfl, rfl, rfl⟩
  · rintro (hi | ⟨rfl, rfl, rfl⟩)
    · exact .inl hi
    · exact .inr ⟨hm.isScoped, rfl, rfl⟩

theorem Makes.scopes (h : ScopeStands regs past m.before other) : ScopeStands regs (past ++ [m]) m.after other := by
  have hclosed : ∀ other, ClosedIn (past ++ [m]) other ↔ ClosedIn past other :=
    closedIn_of_not_dispose (by simp [hm.request])
  by_cases hother : scope = other
  · subst hother
    have hlt := (List.getElem?_eq_some_iff.1 hm.found).1
    have hscope : m.after.scopes[scope]? =
        some { sc with instances := sc.instances ++ [(type, m.before.next value)] } := by
      rw [hm.after]
      exact List.getElem?_set_self hlt
    refine .live hscope (mt (hclosed scope).1 hm.opened) hm.disposals fun type' i => ?_
    rw [hm.given, List.lookup_append, Entries.lookup_cons]
    by_cases htype : type' = type
    · subst htype
      simp [hm.new, hm.notGiven, eq_comm]
    · simp [htype, hm.instances]
  · refine h.congr ?_ (hclosed other) fun type' i => ?_
    · rw [hm.after]
      exact List.getElem?_set_ne hother
    · exact hm.given.trans (or_iff_left fun ⟨heq, _⟩ => hother heq.symm)

theorem Makes.stands (h : Stands regs past m.before) : Stands regs (past ++ [m]) m.after := by
  have hserial : (m.before.next value).serial =
      (registered regs).singletons.length + m.before.runs.length := by
    rw [next, h.registrations]
  have hruns : m.after.runs = type :: m.before.runs := by rw [hm.after]
  constructor
  case registrations =>
    rw [hm.after]
    exact h.registrations
  case opened =>
    rw [hm.after, opened_of_not_create (by rw [hm.request]; rfl), ← h.opened]
    exact List.length_set
  case scopes => exact fun other => hm.scopes (h.scopes other)
  case same =>
    intro other type' i j hi hj
    rcases hm.given.1 hi with hi | ⟨rfl, rfl, rfl⟩
    · rcases hm.given.1 hj with hj | ⟨rfl, rfl, rfl⟩
      · exact h.same hi hj
      · exact absurd hi (hm.notGiven i)
    · rcases hm.given.1 hj with hj | ⟨-, -, rfl⟩
      · exact absurd hj (hm.notGiven j)
      · rfl
  case own =>
    -- the serial number of the new service is above those of the others
    intro other other' type' type'' i j hi hj hsame
    rcases hm.given.1 hi with hi | ⟨rfl, rfl, rfl⟩
    · rcases hm.given.1 hj with hj | ⟨rfl, rfl, rfl⟩
      · exact h.own hi hj hsame
      · have := (h.serials hi).2
        omega
    · rcases hm.given.1 hj with hj | ⟨rfl, rfl, rfl⟩
      · have := (h.serials hj).2
        omega
      · exact ⟨rfl, rfl⟩
  case serials =>
    intro other type' i hi
    rw [hruns, List.length_cons]
    rcases hm.given.1 hi with hi | ⟨rfl, rfl, rfl⟩
    · have := h.serials hi
      omega
    · omega
  case factories =>
    intro other type' i hi
    rcases hm.given.1 hi with hi | ⟨rfl, rfl, rfl⟩
    · exact h.factories hi
    · exact ⟨make, hm.counts⟩
  case ran =>
    intro p hp other type' hrequest hran
    rcases List.mem_append.1 hp with hp | hp
    · exact (h.ran p hp other type' hrequest hran).imp_left fun ⟨i, hi⟩ => ⟨i, hm.given.2 (.inl hi)⟩
    · obtain rfl := List.mem_singleton.1 hp
      rw [hm.request] at hrequest
      cases hrequest
      exact .inl ⟨_, hm.given.2 (.inr ⟨rfl, rfl, rfl⟩)⟩

end Makes

/-! ## What a call keeps -/

/-- Where services stand as they should, a call is answered as it should be, and they still do. -/
theorem Stands.step (h : Stands regs past m.before) (hm : m.before.call m.request = (m.reply, m.after)) :
    Stands regs (past ++ [m]) m.after ∧ ∃ ran : Option String,
      Answers regs past m.before m.request m.reply ran ∧ m.after.runs = ran.toList ++ m.before.runs := by
  obtain ⟨request, before, reply, after⟩ := m
  dsimp only at h hm ⊢
  cases request with
  | createScope =>
    obtain ⟨rfl, rfl⟩ := Prod.mk.inj hm
    refine ⟨h.created rfl rfl, none, ?_, rfl⟩
    show Answers regs past before .createScope (.scope before.scopes.length) none
    rw [h.opened]
    exact .created
  | dispose scope =>
    obtain ⟨rfl, rfl⟩ := Prod.mk.inj hm
    exact ⟨h.disposed rfl rfl, none, .disposed, (dispose_rest before scope).2.1⟩
  | resolve scope type =>
    -- a request that is answered without a factory
    have hasked : ∀ answer, before.resolve scope type = (.ok answer, before) →
        (∀ i, answer = some i → Scoped regs type → GivenIn regs past scope type i) →
        Answers regs past before (.resolve scope type) (.service (.ok answer)) none →
        Stands regs (past ++ [⟨.resolve scope type, before, reply, after⟩]) after ∧ ∃ ran : Option String,
          Answers regs past before (.resolve scope type) reply ran ∧ after.runs = ran.toList ++ before.runs := by
      intro answer hanswer hgiven hanswers
      rw [call, hanswer] at hm
      obtain ⟨rfl, rfl⟩ := Prod.mk.inj hm
      refine ⟨h.asked rfl rfl (.inl rfl) fun i hi => hgiven i ?_, none, hanswers, rfl⟩
      cases hi
      rfl
    rcases singleton_or_scoped regs type with ⟨i, hplace, hcounts⟩ | ⟨hplace, hscoped⟩
    · have hplace' : before.registrations.singleton? type = some i := by rw [h.registrations, hplace]
      refine hasked (some i) (resolve_singleton hplace') (fun _ _ hscoped => ?_) (.singleton hcounts hplace)
      exact absurd hcounts (hscoped i.value)
    · have hnone : before.registrations.singleton? type = none := by rw [h.registrations, hplace]
      have hfactories := (lookup_registered regs type).2
      cases h.scopes scope with
      | unopened hscope =>
        refine hasked none (resolve_unopened hnone hscope) nofun (.unopened hscoped ?_)
        rw [← h.opened]
        exact List.getElem?_eq_none_iff.1 hscope
      | closed hscope hclosed hdisposals =>
        exact hasked none (resolve_closed hnone hscope hdisposals) nofun (.closed hscoped hclosed)
      | @live sc hscope hopen hdisposals hinstances =>
        cases hfactory : (registered regs).factories.lookup type with
        | none =>
          have hfactory' : before.registrations.factories.lookup type = none := by rw [h.registrations, hfactory]
          refine hasked none (resolve_unregistered hnone hfactory') nofun (.unregistered hscoped fun make hmake => ?_)
          cases hfactory.symm.trans ((hfactories make).2 hmake)
        | some make =>
          have hfactory' : before.registrations.factories.lookup type = some make := by
            rw [h.registrations, hfactory]
          have hcounts := (hfactories make).1 hfactory
          have hopened : scope < Services.opened past := by
            rw [← h.opened]
            exact (List.getElem?_eq_some_iff.1 hscope).1
          cases hgiven : sc.instances.lookup type with
          | some i =>
            have hi := (hinstances type i).1 hgiven
            refine hasked (some i) (resolve_given hnone hfactory' hscope hdisposals hgiven) ?_ (.given hopen hi)
            rintro _ ⟨⟩ -
            exact hi
          | none =>
            have hnew : ∀ i, ¬ GivenIn regs past scope type i := by
              intro i hi
              cases hgiven.symm.trans ((hinstances type i).2 hi)
            cases hmake : make (before.runs.count type) with
            | error x =>
              rw [call, resolve_panicked hnone hfactory' hscope hdisposals hgiven hmake] at hm
              obtain ⟨rfl, rfl⟩ := Prod.mk.inj hm
              refine ⟨h.asked rfl rfl (.inr ⟨x, type, rfl, rfl⟩) nofun, some type, ?_, rfl⟩
              exact .panicked hscoped hcounts hopened hopen hnew hmake
            | ok value =>
              rw [call, resolve_made hnone hfactory' hscope hdisposals hgiven hmake] at hm
              obtain ⟨hreply, hafter⟩ := Prod.mk.inj hm
              have hmakes : Makes regs past ⟨.resolve scope type, before, reply, after⟩ scope type make value sc :=
                ⟨hscoped, hcounts, hscope, hopen, hdisposals, hinstances, hgiven, hmake, rfl, hreply.symm,
                  hafter.symm⟩
              refine ⟨hmakes.stands h, some type, ?_, congrArg Services.runs hafter.symm⟩
              rw [← hreply]
              exact .made hscoped hcounts hopened hopen hnew hmake

/-! ## Calls one after another -/

theorem Answers.ran {ran : Option String} {reply : Reply} (h : Answers regs past s (.resolve scope type) reply ran)
    (hran : ran ≠ none) : ∀ i, ¬ GivenIn regs past scope type i := by
  cases h with
  | made _ _ _ _ hnew | panicked _ _ _ _ hnew => exact hnew
  | singleton | given | closed | unopened | unregistered => exact absurd rfl hran

/-- What has been given out is given out again, by the same answer. -/
theorem Stands.kept {reply : Reply} {ran : Option String} (h : Stands regs past s)
    (hgiven : GivenIn regs past scope type i) (hopen : ¬ ClosedIn past scope)
    (hanswers : Answers regs past s (.resolve scope type) reply ran) : reply = .service (.ok (some i)) ∧ ran = none := by
  cases hanswers with
  | singleton hcounts => exact absurd hcounts (hgiven.1 _)
  | given _ hother => exact ⟨by rw [h.same hgiven hother], rfl⟩
  | made _ _ _ _ hnew | panicked _ _ _ _ hnew => exact absurd hgiven (hnew i)
  | closed _ hclosed => exact absurd hclosed hopen
  | unopened _ hopened =>
    rw [← h.opened] at hopened
    cases h.scopes scope with
    | unopened _ _ hnone => exact absurd hgiven (hnone type i)
    | live hscope | closed hscope =>
      exact absurd (List.getElem?_eq_some_iff.1 hscope).1 (Nat.not_lt.2 hopened)
  | unregistered _ hnone =>
    obtain ⟨make, hmake⟩ := h.factories hgiven
    exact absurd hmake (hnone make)

/-- What is given out depends on the scope alone and on how often factories have run. -/
theorem resolve_congr {s' : Services} (hregistrations : s'.registrations = s.registrations) (hruns : s'.runs = s.runs)
    (hscope : s'.scopes[scope]? = s.scopes[scope]?) : (s'.resolve scope type).1 = (s.resolve scope type).1 := by
  unfold resolve
  rw [hregistrations, hruns, hscope]
  cases s.registrations.singleton? type with
  | some i => rfl
  | none =>
    cases s.scopes[scope]? with
    | none => rfl
    | some sc =>
      cases s.registrations.factories.lookup type with
      | none => rfl
      | some make =>
        dsimp only
        by_cases hdisposals : sc.disposals = 0
        · simp only [hdisposals, ne_eq, not_true_eq_false, if_false]
          cases sc.instances.lookup type with
          | some i => rfl
          | none => cases make (s.runs.count type) <;> rfl
        · simp only [hdisposals, ne_eq, not_false_eq_true, if_true]

/-- A disposal changes no answer for another scope, nor for one that is disposed of already. -/
theorem Stands.undisturbed (h : Stands regs past s) (hother : other ≠ scope ∨ ClosedIn past other) (type : String) :
    ((s.dispose scope).resolve other type).1 = (s.resolve other type).1 := by
  obtain ⟨hregistrations, hruns, -⟩ := dispose_rest s scope
  have hscopes := dispose_scopes s scope other
  cases hsingleton : s.registrations.singleton? type with
  | some i =>
    rw [resolve_singleton hsingleton, resolve_singleton (by rw [hregistrations, hsingleton])]
  | none =>
    have hsingleton' : (s.dispose scope).registrations.singleton? type = none := by rw [hregistrations, hsingleton]
    rcases hother with hne | hclosed
    · rw [if_neg (Ne.symm hne)] at hscopes
      exact resolve_congr hregistrations hruns hscopes
    · cases h.scopes other with
      | unopened _ hopen | live _ hopen => exact absurd hclosed hopen
      | @closed sc hscope _ hdisposals =>
        rw [resolve_closed hsingleton hscope hdisposals]
        rw [hscope] at hscopes
        by_cases heq : scope = other
        · rw [if_pos heq] at hscopes
          rw [resolve_closed hsingleton' hscopes (Nat.succ_ne_zero _)]
        · rw [if_neg heq] at hscopes
          rw [resolve_closed hsingleton' hscopes hdisposals]

theorem Stands.orderly (h : Stands regs past m.before) (hm : m.before.call m.request = (m.reply, m.after)) :
    Orderly regs past m := by
  obtain ⟨hafter, ran, hanswers, hruns⟩ := h.step hm
  constructor
  case answers => exact ⟨ran, hanswers, hruns⟩
  case once =>
    intro scope type hrequest hran p hp hp'
    rw [hrequest] at hanswers
    have hnew := hanswers.ran (by rintro rfl; exact hran hruns)
    by_cases hran' : p.after.runs = p.before.runs
    · exact .inl hran'
    · exact .inr ((h.ran p hp scope type hp' hran').resolve_left fun ⟨i, hi⟩ => hnew i hi)
  case kept =>
    intro scope type i hgiven hopen hrequest
    rw [hrequest] at hanswers
    obtain ⟨hreply, rfl⟩ := h.kept hgiven hopen hanswers
    exact ⟨hreply, hruns⟩
  case same => exact fun _ _ _ _ => hafter.same
  case own => exact fun _ _ _ _ _ _ => hafter.own
  case apart =>
    intro scope type type' i j hgiven hplace
    have := (hafter.serials hgiven).1
    have := serial_lt hplace
    omega
  case undisturbed =>
    intro scope other type hrequest hother
    rw [hrequest] at hm
    obtain ⟨-, hdisposed⟩ := Prod.mk.inj hm
    rw [← hdisposed]
    exact h.undisturbed hother type

/-- Whatever is registered, and however scopes are opened, asked for services and disposed of. -/
theorem calls_orderly (regs : List Registration) (calls : List Call) {past later : List Called} {m : Called}
    (h : session call { registrations := registered regs } calls = past ++ m :: later) : Orderly regs past m := by
  obtain ⟨hstands, hm⟩ := session_keeps (fun hm hstands => (hstands.step hm).1) (stands_start regs) h
  exact hstands.orderly hm

/-- Registrations of a singleton that has a factory as well, and of another factory, which panics when it first
runs. -/
def sampleRegistrations : List Registration :=
  [.factory "alloc::string::String" fun _ => .ok (.text "own"), .singleton "alloc::string::String" (.text "shared"),
    .factory "Counter" fun runs => if runs = 0 then .error (.text "not yet") else .ok (.u64 (UInt64.ofNat runs))]

/-- Two scopes come to a counter each, the first of them at the second attempt; it is disposed of and gives out the
singleton but no counter. -/
theorem calls_orderly_sample :
    let called := session call { registrations := registered sampleRegistrations }
      [.createScope, .resolve 0 "Counter", .resolve 0 "Counter", .createScope, .resolve 1 "Counter",
        .resolve 0 "Counter", .dispose 0, .resolve 0 "alloc::string::String", .resolve 0 "Counter"]
    called.map (·.reply) = [.scope 0, .service (.error (.text "not yet")), .service (.ok (some ⟨2, .u64 1⟩)), .scope 1,
      .service (.ok (some ⟨3, .u64 2⟩)), .service (.ok (some ⟨2, .u64 1⟩)), .done,
      .service (.ok (some ⟨0, .text "shared"⟩)), .service (.ok none)] ∧
    ∃ m, called.drop 8 = [m] ∧ Orderly sampleRegistrations (called.take 8) m :=
  ⟨rfl, _, rfl, calls_orderly sampleRegistrations
    [.createScope, .resolve 0 "Counter", .resolve 0 "Counter", .createScope, .resolve 1 "Counter",
      .resolve 0 "Counter", .dispose 0, .resolve 0 "alloc::string::String", .resolve 0 "Counter"]
    (show _ = _ ++ _ :: [] from rfl)⟩

/-- A factory that panics when a scope is first asked for its service runs once more for the same scope. -/
theorem factory_runs_twice :
    let called := session call { registrations := registered sampleRegistrations }
      [.createScope, .resolve 0 "Counter", .resolve 0 "Counter"]
    called.map (·.reply) =
      [.scope 0, .service (.error (.text "not yet")), .service (.ok (some ⟨2, .u64 1⟩))] ∧
    called.map (·.after.runs) = [[], ["Counter"], ["Counter", "Counter"]] ∧
    ∃ past m, called = past ++ [m] ∧ m.request = .resolve 0 "Counter" ∧ m.after.runs ≠ m.before.runs ∧
      ∃ p ∈ past, p.request = .resolve 0 "Counter" ∧ p.after.runs ≠ p.before.runs := by
  intro called
  refine ⟨rfl, rfl, called.take 2, called[2], rfl, rfl, by decide, called[1], .tail _ (.head _), rfl, by decide⟩

end FunctionWorker.Services
