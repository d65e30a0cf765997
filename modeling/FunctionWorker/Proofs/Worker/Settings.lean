/-
The settings of a worker with the default reloader: the directory whose functions it lists, and the
environment. They are changed by init requests and reloads that are answered with success and by nothing
else, so that after any requests they are those of the latest success; a request that is refused leaves
everything as it was. A directory that is named when functions are listed is used for that request alone.
-/
import FunctionWorker.Proofs.Worker.Answers
import FunctionWorker.Proofs.World.Standing

namespace FunctionWorker

/-! ## Variables by name -/

namespace Environment

theorem ofVariables_concat (vars : List (String × String)) (x : String × String) :
    ofVariables (vars ++ [x]) = Entries.put x.1 x.2 (ofVariables vars) := List.foldl_concat ..

theorem lookup_ofVariables (vars : List (String × String)) (name : String) :
    (ofVariables vars).lookup name = vars.reverse.lookup name := by
  induction vars using List.reverseRecOn with
  | nil => rfl
  | append_singleton vars x ih =>
    rw [ofVariables_concat, Entries.lookup_put, List.reverse_concat, Entries.lookup_cons, ih]

theorem keys_ofVariables (vars : List (String × String)) :
    ((ofVariables vars).map Prod.fst).Nodup ∧
      ∀ name, name ∈ (ofVariables vars).map Prod.fst ↔ name ∈ vars.map Prod.fst := by
  induction vars using List.reverseRecOn with
  | nil => exact ⟨List.nodup_nil, fun _ => Iff.rfl⟩
  | append_singleton vars x ih =>
    rw [ofVariables_concat]
    refine ⟨Entries.nodup_put ih.1, fun name => ?_⟩
    rw [Entries.keys_put, List.map_append, List.mem_append, List.map_singleton, List.mem_singleton, ← ih.2]
    split
    · rename_i hmem
      constructor
      · exact .inl
      · rintro (h | rfl)
        · exact h
        · exact hmem
    · rw [List.mem_append, List.mem_singleton]

/-- The variables of an environment are the given ones, of which the last of each name counts. -/
structure Has (e : Environment) (vars : List (String × String)) : Prop where
  get : ∀ name, e.get name = vars.reverse.lookup name
  size : e.size = (vars.map Prod.fst).dedup.length

theorem has_ofVariables (vars : List (String × String)) (directory : Option String) :
    Has ⟨ofVariables vars, directory⟩ vars := by
  obtain ⟨hnodup, hmem⟩ := keys_ofVariables vars
  refine ⟨lookup_ofVariables vars, ?_⟩
  have hperm : ((ofVariables vars).map Prod.fst).Perm (vars.map Prod.fst).dedup := by
    rw [List.perm_ext_iff_of_nodup hnodup (List.nodup_dedup _)]
    intro name
    rw [hmem, List.mem_dedup]
  rw [← hperm.length_eq, List.length_map]
  rfl

/-- A reload is refused for a variable without a name, and replaces everything otherwise. -/
theorem reload_cases (e : Environment) (vars : List (String × String)) (directory : Option String) :
    ((∃ x ∈ vars, x.1 = "") ∧ ∃ reason, e.reload vars directory = .error reason) ∨
      (∀ x ∈ vars, x.1 ≠ "") ∧ e.reload vars directory = .ok ⟨ofVariables vars, directory.or e.directory⟩ := by
  unfold reload
  cases hfind : vars.find? (·.1 == "") with
  | some x => exact .inl ⟨⟨x, List.mem_of_find?_eq_some hfind, by simpa using List.find?_some hfind⟩, _, rfl⟩
  | none => exact .inr ⟨by simpa using hfind, rfl⟩

end Environment

/-! ## Requests -/

/-- The directory that a request carries, if any. -/
def carried (directory : String) : Option String := if directory = "" then none else some directory

variable {w w' : World}

namespace Worker

variable {v : Worker}

/-- An init request is accepted while the worker is handshaking or ready, and is refused otherwise. -/
inductive Inits (w : World) (r : InitRequest) : Outcome → World → Prop
  | accepted (state : w.state = .handshaking ∨ w.state = .ready) :
      Inits w r .success { w with state := .ready, directory := (carried r.functionAppDirectory).or w.directory }
  | refused (state : w.state = .unstarted ∨ w.state = .closed) (e : ExceptionRecord) : Inits w r (.failure e) w

theorem Inits.outcome {r : InitRequest} {o : Outcome} (h : Inits w r o w') :
    (o.isSuccess = true ↔ w.state = .handshaking ∨ w.state = .ready) ∧ (o.isSuccess = false → w' = w) := by
  cases h with
  | accepted state => exact ⟨iff_of_true rfl state, nofun⟩
  | refused state e =>
    refine ⟨iff_of_false nofun ?_, fun _ => rfl⟩
    rcases state with hs | hs <;> simp [hs]

theorem init_inits {r : InitRequest} {a : Except Panic Message} (h : (v.init r).Alone w a w') :
    ∃ o, a = .ok (.initResponse ⟨version, v.capabilities, v.metadata, o⟩) ∧ Inits w r o w' := by
  have h := h.op_inv
  -- the state alone decides, before the request is looked at
  have hcases : (w.state = .unstarted ∨ w.state = .closed) ∧ w.state.initialised = none ∨
      (w.state = .handshaking ∨ w.state = .ready) ∧ w.state.initialised = some .ready := by
    cases w.state <;> simp [WorkerState.initialised]
  rcases hcases with ⟨hstate, hnone⟩ | ⟨hstate, hsome⟩
  · rw [perform_initialise_of_none hnone] at h
    obtain ⟨ha, rfl⟩ := h.pure_inv
    exact ⟨_, ha, .refused hstate _⟩
  · rw [perform_initialise_of_some hsome] at h
    have haccepted := Inits.accepted (r := r) hstate
    unfold carried at haccepted
    dsimp only at h
    by_cases hempty : r.functionAppDirectory = ""
    · rw [if_neg (not_not.2 hempty)] at h
      obtain ⟨ha, rfl⟩ := h.pure_inv
      rw [if_pos hempty] at haccepted
      exact ⟨_, ha, haccepted⟩
    · rw [if_pos hempty] at h
      obtain ⟨ha, rfl⟩ := h.op_inv.pure_inv
      rw [if_neg hempty] at haccepted
      exact ⟨_, ha, haccepted⟩

/-- A reload replaces the environment, unless a variable has no name. -/
inductive Reloads (w : World) (r : ReloadRequest) : Outcome → World → Prop
  | replaced (named : ∀ x ∈ r.vars, x.1 ≠ "") :
      Reloads w r .success
        { w with
          environment :=
            ⟨Environment.ofVariables r.vars, (carried r.functionAppDirectory).or w.environment.directory⟩
          directory := (carried r.functionAppDirectory).or w.directory }
  | refused (unnamed : ∃ x ∈ r.vars, x.1 = "") (e : ExceptionRecord) : Reloads w r (.failure e) w

theorem Reloads.outcome {r : ReloadRequest} {o : Outcome} (h : Reloads w r o w') :
    (o.isSuccess = true ↔ ∀ x ∈ r.vars, x.1 ≠ "") ∧ (o.isSuccess = false → w' = w) := by
  cases h with
  | replaced named => exact ⟨iff_of_true rfl named, nofun⟩
  | refused unnamed e =>
    refine ⟨iff_of_false nofun fun named => ?_, fun _ => rfl⟩
    obtain ⟨x, hx, hempty⟩ := unnamed
    exact named x hx hempty

theorem reload_reloads {r : ReloadRequest} {a : Except Panic Message} (hdefault : v.reloader = none)
    (h : (v.reload r).Alone w a w') :
    ∃ o, a = .ok (.reloadResponse ⟨v.metadata, v.capabilities, o⟩) ∧ Reloads w r o w' := by
  have hreplace : v.replaceVariables r.vars (carried r.functionAppDirectory) = (do
      let result : Except String Unit ← Job.op (.reload r.vars (carried r.functionAppDirectory))
      return result.mapError .reload) := by
    unfold replaceVariables
    rw [hdefault]
  unfold Worker.reload at h
  extract_lets directory at h
  rw [show directory = carried r.functionAppDirectory from rfl, hreplace] at h
  have h := h.assoc.op_inv
  rcases w.environment.reload_cases r.vars (carried r.functionAppDirectory) with
    ⟨hunnamed, reason, hreload⟩ | ⟨hnamed, hreload⟩
  · have hperform : World.perform (.reload r.vars (carried r.functionAppDirectory)) w = (.error reason, w) := by
      simp only [World.perform, hreload]
    rw [hperform] at h
    obtain ⟨ha, rfl⟩ := h.pure_inv
    exact ⟨_, ha, .refused hunnamed _⟩
  · have hperform : World.perform (.reload r.vars (carried r.functionAppDirectory)) w =
        (.ok (), { w with environment :=
          ⟨Environment.ofVariables r.vars, (carried r.functionAppDirectory).or w.environment.directory⟩ }) := by
      simp only [World.perform, hreload]
    have hreplaced := Reloads.replaced (w := w) hnamed
    rw [hperform] at h
    cases hdirectory : carried r.functionAppDirectory with
    | none =>
      rw [hdirectory] at h hreplaced
      obtain ⟨ha, rfl⟩ := h.pure_inv
      exact ⟨_, ha, hreplaced⟩
    | some d =>
      rw [hdirectory] at h hreplaced
      obtain ⟨ha, rfl⟩ := h.op_inv.pure_inv
      exact ⟨_, ha, hreplaced⟩

/-- The answer to a request for the functions of a directory. -/
def listingMessage : Except WorkerError (List FunctionMetadata) → Message
  | .ok functions => .metadataResponse ⟨functions, false, .success⟩
  | .error e => .metadataResponse ⟨[], false, .failure e.exception⟩

/-- The directory that is listed: the one that is named, or else the one of the worker. -/
def listedDirectory (requested : String) (own : Option String) : String :=
  if requested ≠ "" then requested else own.getD "."

/-- A worker that is ready lists a directory and answers with what it lists. -/
theorem functionMetadata_lists {requested : String} {a : Except Panic Message} (hready : w.state = .ready)
    (h : (v.functionMetadata requested).Alone w a w') :
    ∃ listed, (v.listFunctions (listedDirectory requested w.directory)).Alone w listed w' ∧
      a = listed.map listingMessage := by
  unfold functionMetadata at h
  extract_lets answer at h
  have hanswer : ∀ result, answer result = pure (listingMessage result) := by
    intro result
    cases result <;> rfl
  rcases ensureReady_inv h with ⟨-, h⟩ | ⟨hnot, -⟩
  · -- the worker is asked for its directory only if the request names none
    have hlisting : (v.listFunctions (listedDirectory requested w.directory) >>= answer).Alone w a w' := by
      unfold listedDirectory
      unfold directoryFor at h
      by_cases hnamed : requested ≠ ""
      · rw [if_pos hnamed] at h ⊢
        exact h
      · rw [if_neg hnamed] at h ⊢
        exact h.op_inv
    rcases hlisting.bind_inv with ⟨listed, u, hlists, h⟩ | ⟨p, rfl, hlists⟩
    · rw [hanswer] at h
      obtain ⟨rfl, rfl⟩ := h.pure_inv
      exact ⟨_, hlists, rfl⟩
    · exact ⟨_, hlists, rfl⟩
  · exact absurd hready hnot

/-- What is made of the functions that a provider gives: each of them needs a binding. -/
def checkedListing (given : Except MetadataError (List FunctionMetadata)) :
    Except WorkerError (List FunctionMetadata) :=
  (given.bind fun functions => (MetadataFile.validate functions).map fun _ => functions).mapError .metadata

/-- A worker with a provider lists a directory by running the provider on it. -/
theorem listFunctions_provides {provide : MetadataProvider} {directory : String}
    {listed : Except Panic (Except WorkerError (List FunctionMetadata))} (hprovider : v.provider = some provide)
    (h : (v.listFunctions directory).Alone w listed w') :
    ∃ given, (Code.job (provide directory)).Alone w given w' ∧ listed = given.map checkedListing := by
  unfold listFunctions at h
  rw [hprovider] at h
  rcases h.bind_inv with ⟨given, u, hgiven, h⟩ | ⟨p, rfl, hgiven⟩
  · have hchecked : listed = .ok (checkedListing given) ∧ w' = u := by
      unfold checkedListing
      cases given with
      | error e => exact h.pure_inv
      | ok functions =>
        dsimp only [Except.bind] at h ⊢
        cases hvalid : MetadataFile.validate functions with
        | error e =>
          rw [hvalid] at h
          exact h.pure_inv
        | ok =>
          rw [hvalid] at h
          exact h.pure_inv
    obtain ⟨rfl, rfl⟩ := hchecked
    exact ⟨_, hgiven, rfl⟩
  · exact ⟨_, hgiven, rfl⟩

end Worker

/-! ## Turns -/

namespace Turn

variable {v : Worker} {t : Turn}

/-- Whether the demand of a turn is answered with success. -/
def succeeds (t : Turn) : Bool :=
  match t.answer with
  | .ok (some response) => (response.payload.result.map (·.isSuccess)).getD false
  | _ => false

/-- The reload that a turn carries out. -/
def reloads? (t : Turn) : Option ReloadRequest :=
  match t.demand with
  | .process ⟨_, .reloadRequest r⟩ => if t.succeeds then some r else none
  | _ => none

/-- The directory that a turn brings: an init request or a reload is answered with success and carries one. -/
def directory? (t : Turn) : Option String :=
  match t.demand with
  | .process ⟨_, .initRequest r⟩ => if t.succeeds then carried r.functionAppDirectory else none
  | .process ⟨_, .reloadRequest r⟩ => if t.succeeds then carried r.functionAppDirectory else none
  | _ => none

/-- What a turn does to the settings of the worker. -/
structure Sets (t : Turn) : Prop where
  directory : t.after.directory = t.directory?.or t.before.directory
  vars : t.after.environment.vars =
    (t.reloads?.map fun r => Environment.ofVariables r.vars).getD t.before.environment.vars
  environment : t.after.environment.directory =
    (t.reloads?.bind fun r => carried r.functionAppDirectory).or t.before.environment.directory

/-- A turn that is about none of the settings leaves them as they are. -/
theorem Sets.of_same (hdirectory : t.directory? = none) (hreloads : t.reloads? = none)
    (h : t.after.directory = t.before.directory ∧ t.after.environment = t.before.environment) : t.Sets := by
  refine ⟨?_, ?_, ?_⟩
  · rw [hdirectory, h.1, Option.none_or]
  · rw [hreloads, h.2, Option.map_none, Option.getD_none]
  · rw [hreloads, h.2, Option.bind_none, Option.none_or]

/-- What a worker with the default reloader does about each request, where a request for functions that names
no directory is about the directory `own`. -/
structure Heeds (v : Worker) (own : Option String) (t : Turn) : Prop where
  inits : ∀ e r, t.demand = .process e → e.payload = .initRequest r → ∃ ms o,
    t.answer = .ok (some (.reply (nanoseconds ms) e.header
      (.initResponse ⟨Worker.version, v.capabilities, v.metadata, o⟩))) ∧
    (o.isSuccess = true ↔ t.before.state = .handshaking ∨ t.before.state = .ready) ∧
    (o.isSuccess = false → t.after = t.before)
  reloads : ∀ e r, t.demand = .process e → e.payload = .reloadRequest r → ∃ ms o,
    t.answer = .ok (some (.reply (nanoseconds ms) e.header (.reloadResponse ⟨v.metadata, v.capabilities, o⟩))) ∧
    (o.isSuccess = true ↔ ∀ x ∈ r.vars, x.1 ≠ "") ∧ (o.isSuccess = false → t.after = t.before)
  lists : ∀ e requested, t.demand = .process e → e.payload = .metadataRequest requested → t.before.state = .ready →
    ∃ listed, (v.listFunctions (Worker.listedDirectory requested own)).Alone t.before listed t.after ∧
      (v.provider = none → ∀ ms, listed = .ok (.ok ms) →
        Worker.Lists (Worker.listedDirectory requested own) v.catalog.entries ms) ∧
      (∀ provide, v.provider = some provide → ∃ given,
        (Code.job (provide (Worker.listedDirectory requested own))).Alone t.before given t.after ∧
          listed = given.map Worker.checkedListing) ∧
      match listed with
      | .ok functions =>
        ∃ ms, t.answer = .ok (some (.reply (nanoseconds ms) e.header (Worker.listingMessage functions)))
      | .error p => t.answer = .error p
  forgets : ∀ e requested, t.demand = .process e → e.payload = .metadataRequest requested →
    t.after.directory = t.before.directory ∧ t.after.environment = t.before.environment

end Turn

theorem setting_perform {op : Op} (h : op.isSetting = false) (w : World) :
    (World.perform op w).2.directory = w.directory ∧ (World.perform op w).2.environment = w.environment := by
  cases op with
  | reload vars directory | setDirectory d => cases h
  | scopeOf c =>
    simp only [World.perform]
    split <;> exact ⟨rfl, rfl⟩
  | insertFunction d =>
    simp only [World.perform]
    split <;> exact ⟨rfl, rfl⟩
  | initialise =>
    simp only [World.perform]
    split <;> exact ⟨rfl, rfl⟩
  | _ => exact ⟨rfl, rfl⟩

/-- A job that keeps the settings of a worker leaves its directory and its environment alone. -/
theorem Job.Alone.keeps {α : Type} {j : Job α} {r : Except Panic α} (h : j.Alone w r w') (hj : j.Keeps) :
    w'.directory = w.directory ∧ w'.environment = w.environment := by
  obtain ⟨es, hmine, hrun⟩ := h
  have hown := hrun.own (asksOnly_of_asks (hj.imp fun _ hx => hx.2))
  refine hrun.leads.keeps (P := fun x => x.directory = w.directory ∧ x.environment = w.environment)
    (fun e he hx => ?_) ⟨rfl, rfl⟩
  obtain ⟨hdirectory, henvironment⟩ := setting_perform (hown e he (hmine e he)) e.before
  exact ⟨hdirectory.trans hx.1, henvironment.trans hx.2⟩

namespace Turn

variable {v : Worker} {t : Turn}

theorem Done.inits (h : t.Done v) {e : Envelope} {r : InitRequest} (hd : t.demand = .process e)
    (he : e.payload = .initRequest r) : ∃ ms o,
      t.answer = .ok (some (.reply (nanoseconds ms) e.header
        (.initResponse ⟨Worker.version, v.capabilities, v.metadata, o⟩))) ∧ Worker.Inits t.before r o t.after := by
  obtain ⟨demand, before, answer, after⟩ := t
  cases hd
  obtain ⟨b, hanswer, hb⟩ := Worker.process_inv h
  rw [he] at hanswer
  obtain ⟨m, hinit, rfl⟩ := hanswer.map_inv
  obtain ⟨o, rfl, hinits⟩ := Worker.init_inits hinit
  obtain ⟨ms, ha⟩ := hb
  exact ⟨ms, o, ha, hinits⟩

theorem Done.reloads (hdefault : v.reloader = none) (h : t.Done v) {e : Envelope} {r : ReloadRequest}
    (hd : t.demand = .process e) (he : e.payload = .reloadRequest r) : ∃ ms o,
      t.answer = .ok (some (.reply (nanoseconds ms) e.header (.reloadResponse ⟨v.metadata, v.capabilities, o⟩))) ∧
      Worker.Reloads t.before r o t.after := by
  obtain ⟨demand, before, answer, after⟩ := t
  cases hd
  obtain ⟨b, hanswer, hb⟩ := Worker.process_inv h
  rw [he] at hanswer
  obtain ⟨m, hreload, rfl⟩ := hanswer.map_inv
  obtain ⟨o, rfl, hreloads⟩ := Worker.reload_reloads hdefault hreload
  obtain ⟨ms, ha⟩ := hb
  exact ⟨ms, o, ha, hreloads⟩

/-- What a turn brings is what it sets, and nothing else. -/
theorem Done.sets (hdefault : v.reloader = none) (h : t.Done v) : t.Sets := by
  obtain ⟨demand, before, answer, after⟩ := t
  cases demand with
  | start =>
    have hw := Worker.start_inv h
    exact .of_same rfl rfl (by rw [hw]; exact ⟨rfl, rfl⟩)
  | process e =>
    obtain ⟨header, payload⟩ := e
    cases payload with
    | initRequest r =>
      obtain ⟨ms, o, rfl, hinits⟩ := h.inits rfl rfl
      change Worker.Inits before r o after at hinits
      cases hinits with
      | accepted state => exact ⟨rfl, rfl, rfl⟩
      | refused state e => exact .of_same rfl rfl ⟨rfl, rfl⟩
    | reloadRequest r =>
      obtain ⟨ms, o, rfl, hreloads⟩ := h.reloads hdefault rfl rfl
      change Worker.Reloads before r o after at hreloads
      cases hreloads with
      | replaced named => exact ⟨rfl, rfl, rfl⟩
      | refused unnamed e => exact .of_same rfl rfl ⟨rfl, rfl⟩
    | loadRequest r =>
      -- a load request changes what the worker is, but only its table of functions
      obtain ⟨b, hanswer, -⟩ := Worker.process_inv h
      obtain ⟨m, hload, rfl⟩ := hanswer.map_inv
      rcases Worker.load_inv hload with ⟨-, hw, -⟩ | ⟨-, hw, -⟩ | ⟨-, -, d, -, -, hw⟩
      all_goals exact .of_same rfl rfl (by rw [hw]; exact ⟨rfl, rfl⟩)
    | terminate graceMs =>
      obtain ⟨b, hanswer, -⟩ := Worker.process_inv h
      have hw := Worker.answer_terminate hanswer
      exact .of_same rfl rfl (by rw [hw]; exact ⟨rfl, rfl⟩)
    | _ =>
      obtain ⟨b, hanswer, -⟩ := Worker.process_inv h
      exact .of_same rfl rfl (hanswer.keeps (v.answer_keeps rfl nofun))

/-- Every turn heeds the settings that it finds. -/
theorem Done.heeds (hdefault : v.reloader = none) (h : t.Done v) : t.Heeds v t.before.directory := by
  constructor
  · intro e r hd he
    obtain ⟨ms, o, ha, hinits⟩ := h.inits hd he
    exact ⟨ms, o, ha, hinits.outcome⟩
  · intro e r hd he
    obtain ⟨ms, o, ha, hreloads⟩ := h.reloads hdefault hd he
    exact ⟨ms, o, ha, hreloads.outcome⟩
  · intro e requested hd he hready
    obtain ⟨demand, before, answer, after⟩ := t
    cases hd
    obtain ⟨b, hanswer, hb⟩ := Worker.process_inv h
    rw [he] at hanswer
    obtain ⟨m, hmetadata, rfl⟩ := hanswer.map_inv
    obtain ⟨listed, hlists, rfl⟩ := Worker.functionMetadata_lists hready hmetadata
    refine ⟨listed, hlists, fun hnone ms hms => ?_, fun _ h => Worker.listFunctions_provides h hlists, ?_⟩
    · obtain ⟨es, -, run⟩ := hlists
      exact (v.listFunctions_ends _ requested _ _ _ _ run).lists hnone ms hms
    · cases listed with
      | ok functions => exact hb
      | error p => exact hb
  · intro e requested hd he
    obtain ⟨demand, before, answer, after⟩ := t
    cases hd
    obtain ⟨b, hanswer, -⟩ := Worker.process_inv h
    rw [he] at hanswer
    exact hanswer.keeps (v.answer_keeps rfl nofun)

end Turn

/-! ## Lives -/

/-- The last of the values that come from a list, or else the one from before, is found one by one. -/
theorem latest_cons {α β : Type} (f : α → Option β) (a : α) (l : List α) (b : Option β) :
    ((a :: l).filterMap f).getLast?.or b = (l.filterMap f).getLast?.or ((f a).or b) := by
  cases hf : f a with
  | none => rw [List.filterMap_cons_none hf, Option.none_or]
  | some x =>
    rw [List.filterMap_cons_some hf, List.getLast?_cons]
    cases (l.filterMap f).getLast? <;> rfl

namespace Turns

variable {v : Worker} {ts : List Turn}

theorem directory (hdefault : v.reloader = none) (h : Turns v w ts w') :
    w'.directory = (ts.filterMap (·.directory?)).getLast?.or w.directory := by
  induction ts generalizing w with
  | nil => rw [show w = w' from h, List.filterMap_nil, List.getLast?_nil, Option.none_or]
  | cons t ts ih =>
    obtain ⟨rfl, hdone, hrest⟩ := h
    rw [latest_cons, ih hrest, (hdone.sets hdefault).directory]

theorem environment_directory (hdefault : v.reloader = none) (h : Turns v w ts w') :
    w'.environment.directory = ((ts.filterMap (·.reloads?)).filterMap fun r =>
      carried r.functionAppDirectory).getLast?.or w.environment.directory := by
  rw [List.filterMap_filterMap]
  induction ts generalizing w with
  | nil => rw [show w = w' from h, List.filterMap_nil, List.getLast?_nil, Option.none_or]
  | cons t ts ih =>
    obtain ⟨rfl, hdone, hrest⟩ := h
    rw [latest_cons, ih hrest, (hdone.sets hdefault).environment]

theorem environment_vars (hdefault : v.reloader = none) (h : Turns v w ts w') :
    w'.environment.vars = ((ts.filterMap (·.reloads?)).getLast?.map fun r =>
      Environment.ofVariables r.vars).getD w.environment.vars := by
  induction ts generalizing w with
  | nil => rw [show w = w' from h, List.filterMap_nil, List.getLast?_nil, Option.map_none, Option.getD_none]
  | cons t ts ih =>
    obtain ⟨rfl, hdone, hrest⟩ := h
    rw [ih hrest, (hdone.sets hdefault).vars]
    cases ht : t.reloads? with
    | none => rw [List.filterMap_cons_none ht, Option.map_none, Option.getD_none]
    | some r =>
      rw [List.filterMap_cons_some ht, List.getLast?_cons]
      cases (ts.filterMap (·.reloads?)).getLast? <;> rfl

end Turns

/-- The variables that an environment has after some reloads: those of the last one, if there was any. -/
def Environment.After (e e' : Environment) (reloads : List ReloadRequest) : Prop :=
  match reloads.getLast? with
  | some r => e'.Has r.vars
  | none => e'.vars = e.vars

/-- After any requests to a worker with the default reloader, its directory is the one that the latest init
request or reload brought that was answered with success, or else the one of its options; the variables of
its environment are those of the latest such reload, and the directory of its environment is the latest that
a reload brought. The next request finds these settings: where it names no directory, the functions of
the worker's are listed, and only then; init requests and reloads are answered with success just when they
are allowed, and change nothing otherwise. -/
theorem Worker.settings_follow (v : Worker) (hdefault : v.reloader = none) (services : ServiceRegistrations)
    (environment : Environment) (ts : List Turn) (w' : World)
    (h : Turns v { v.world services with environment } ts w') :
    w'.directory = (ts.filterMap (·.directory?)).getLast?.or v.options.functionAppDirectory ∧
    environment.After w'.environment (ts.filterMap (·.reloads?)) ∧
    w'.environment.directory = ((ts.filterMap (·.reloads?)).filterMap fun r =>
      carried r.functionAppDirectory).getLast?.or environment.directory ∧
    ∀ t : Turn, t.before = w' → t.Done v →
      t.Heeds v ((ts.filterMap (·.directory?)).getLast?.or v.options.functionAppDirectory) := by
  have hdirectory : w'.directory = (ts.filterMap (·.directory?)).getLast?.or v.options.functionAppDirectory :=
    h.directory hdefault
  have hvars : w'.environment.vars = ((ts.filterMap (·.reloads?)).getLast?.map fun r =>
      Environment.ofVariables r.vars).getD environment.vars := h.environment_vars hdefault
  refine ⟨hdirectory, ?_, h.environment_directory hdefault, fun t hbefore hdone => ?_⟩
  · unfold Environment.After
    split
    · rename_i r hlast
      rw [hlast, Option.map_some, Option.getD_some] at hvars
      have hhas := Environment.has_ofVariables r.vars w'.environment.directory
      rwa [← hvars] at hhas
    · rename_i hlast
      rwa [hlast, Option.map_none, Option.getD_none] at hvars
  · rw [← hdirectory, ← hbefore]
    exact hdone.heeds hdefault

/-! A worker is told of directories by its options, by an init request and by reloads. -/

namespace Mover

/-- A worker with one function, which has a binding for the value that it returns. -/
def worker : Worker :=
  { Novice.worker with
    options := { workerId := "w-2", functionAppDirectory := some "/home" }
    catalog := ⟨[(CatalogEntry.ofHandler "move" 0).returns "queue"]⟩ }

def init (directory : String) : Demand :=
  .process (.make 0 "i" (.initRequest { functionAppDirectory := directory }))

def reload (vars : List (String × String)) (directory : String) : Demand :=
  .process (.make 0 "r" (.reloadRequest ⟨vars, directory⟩))

def list (directory : String) : Demand := .process (.make 0 "l" (.metadataRequest directory))

/-- The first init request comes too early, and one of the reloads has a variable without a name. -/
def demands : List Demand :=
  [init "/early", reload [("A", "1"), ("B", "2"), ("A", "3")] "", .start, init "/app", list "/other",
    reload [("C", "4"), ("", "5")] "/bad", reload [("B", "6"), ("B", "7")] "/srv", init ""]

/-- The functions that a turn answers with, each with its directory. -/
def listed? (t : Turn) : Option (List (String × String)) :=
  match t.answer with
  | .ok (some ⟨_, .metadataResponse r⟩) => some (r.functions.map fun f => (f.name, f.directory))
  | _ => none

theorem settings_follow_mover :
    let ts := Demand.turns worker (worker.world {}) demands
    let w' := Demand.last worker (worker.world {}) demands
    Turns worker (worker.world {}) ts w' ∧
    ts.map (·.directory?) = [none, none, none, some "/app", none, none, some "/srv", none] ∧
    w'.directory = some "/srv" ∧ w'.environment.Has [("B", "6"), ("B", "7")] ∧
    w'.environment.directory = some "/srv" ∧ w'.state = .ready ∧
    ((list "").turn worker w').Heeds worker (some "/srv") ∧
    ts.map listed? = [none, none, none, none, some [("move", "/other")], none, none, none] ∧
    listed? ((list "").turn worker w') = some [("move", "/srv")] := by
  have hturns := Demand.turns_follow worker demands (worker.world {})
  obtain ⟨hdirectory, hvars, henvironment, hnext⟩ := worker.settings_follow rfl {} {} _ _ hturns
  have hlast : ((Demand.turns worker (worker.world {}) demands).filterMap (·.directory?)).getLast? =
      some "/srv" := by decide +kernel
  have hreload : ((Demand.turns worker (worker.world {}) demands).filterMap (·.reloads?)).getLast? =
      some ⟨[("B", "6"), ("B", "7")], "/srv"⟩ := by decide +kernel
  rw [hlast, Option.some_or] at hdirectory hnext
  unfold Environment.After at hvars
  rw [hreload] at hvars
  have hdone := (Demand.turns_follow worker [list ""] (Demand.last worker (worker.world {}) demands)).2.1
  exact ⟨hturns, by decide +kernel, hdirectory, hvars, henvironment.trans (by decide +kernel), by decide +kernel,
    hnext _ rfl hdone, by decide +kernel, by decide +kernel⟩

end Mover

end FunctionWorker
