/-
Bindings that are told twice. The metadata of a function tell the host its bindings as data and once more as JSON
texts. A catalog prints the texts with the keys in order and directions under their own names, the file with the
keys as they are declared and directions as they were spelled; both are read back as the same bindings.
-/
import FunctionWorker.Proofs.Json.Records
import FunctionWorker.Proofs.Worker.Answers

namespace FunctionWorker

open MetadataFile (BindingEntry bindingEntry? direction?)

/-- Reads a raw binding as the declaration of a binding. -/
def readBinding (raw : String) : Option BindingEntry := (Json.Raw.ofBytes (Text.utf8 raw)).bind bindingEntry?

/-- A raw binding tells a binding: its name, its type and, in some spelling, its direction. -/
structure Tells (raw : String) (binding : String × BindingInfo) (entry : BindingEntry) : Prop where
  read : readBinding raw = some entry
  name : entry.name = binding.1
  bindingType : entry.bindingType = binding.2.bindingType
  direction : direction? entry.direction = some binding.2.direction

/-- There is a raw binding for each binding, at the same place, and it tells the same. -/
structure FunctionMetadata.Consistent (m : FunctionMetadata) : Prop where
  length : m.rawBindings.length = m.bindings.length
  tells : ∀ (i : Nat) (raw : String) (binding : String × BindingInfo), m.rawBindings[i]? = some raw →
    m.bindings[i]? = some binding → ∃ entry, Tells raw binding entry

/-- Metadata that are made for the host: those of an entry of a catalog, and those that come of a file that is
accepted, whatever else goes on while they are made. -/
inductive FunctionMetadata.Made : FunctionMetadata → Prop
  | catalog (e : CatalogEntry) (functionId directory : String) : Made (e.toMetadata functionId directory)
  | file {files : List (String × Bytes)} {directory : String} {w w' : World} {es : List Event}
      {functions : List FunctionMetadata} {m : FunctionMetadata}
      (run : Job.Run (Code.job (MetadataFile.provide files directory)) w es (.ok (.ok functions)) w')
      (mem : m ∈ functions) : Made m

/-! ## Reading raw bindings -/

/-- The declaration of a binding is read from an object that holds its three texts in any order. -/
theorem readBinding_object {members : List (String × Json)} {entry : BindingEntry}
    (htexts : ∀ m ∈ members, ∃ s, m.2 = .text s) (hnodup : (members.map Prod.fst).Nodup)
    (hname : members.lookup "name" = some (.text entry.name))
    (htype : members.lookup "type" = some (.text entry.bindingType))
    (hdirection : members.lookup "direction" = some (.text entry.direction)) :
    readBinding (Json.object members).render = some entry := by
  have hreads : ∀ m ∈ members, ∃ r, Json.ReadsAs 0 m.2 r := by
    intro m hm
    obtain ⟨s, hs⟩ := htexts m hm
    exact ⟨_, hs ▸ Json.readsAs_text s⟩
  have hmembers : members ≠ [] := by
    rintro rfl
    cases hname
  obtain ⟨rs, hraw, hstands⟩ := Json.ofBytes_object hreads hmembers
  obtain ⟨field, hfields, hfound⟩ :=
    Json.fields?_of_members ["name", "type", "direction"] hstands hnodup
  unfold readBinding
  rw [hraw, Option.bind_some, bindingEntry?, hfields]
  have hn := hfound "name" (by decide) _ hname
  have ht := hfound "type" (by decide) _ htype
  have hd := hfound "direction" (by decide) _ hdirection
  simp [hn, ht, hd]

namespace MetadataFile

/-- A raw binding of a file is read as it was declared, its direction as it was spelled. -/
theorem readBinding_rawBinding (b : BindingEntry) : readBinding (rawBinding b) = some b :=
  readBinding_object (by simp) (by simp) rfl rfl rfl

theorem direction?_name (d : Direction) : direction? d.name = some d := by
  cases d <;> decide +kernel

/-- Bindings that are accepted are those that were declared, in the same order. -/
theorem bindings_eq_ok {function : String} : ∀ {entries : List BindingEntry} {bs : List (String × BindingInfo)},
    bindings function entries = .ok bs → List.Forall₂ (fun e b => Tells (rawBinding e) b e) entries bs
  | [], _, h => by
    cases h
    exact .nil
  | e :: entries, bs, h => by
    rw [bindings] at h
    split at h
    · cases h
    · rename_i d hd
      cases hrest : bindings function entries with
      | error err =>
        rw [hrest] at h
        cases h
      | ok rest =>
        rw [hrest] at h
        cases h
        exact .cons ⟨readBinding_rawBinding e, rfl, rfl, hd⟩ (bindings_eq_ok hrest)

end MetadataFile

theorem CatalogEntry.readBinding_rawBinding (b : String × BindingInfo) :
    readBinding (CatalogEntry.rawBinding b) = some ⟨b.1, b.2.bindingType, b.2.direction.name⟩ := by
  -- the keys are put in order
  have hmembers : Json.ofMembers [("name", .text b.1), ("type", .text b.2.bindingType),
      ("direction", .text b.2.direction.name)] = .object [("direction", .text b.2.direction.name),
        ("name", .text b.1), ("type", .text b.2.bindingType)] := by
    have htype : ¬"type" < "name" ∧ ¬"name" = "type" := by decide
    have hdirection : "direction" < "name" := by decide
    simp only [Json.ofMembers, Json.insert, List.foldl_cons, List.foldl_nil, if_neg htype.1, if_neg htype.2,
      if_pos hdirection]
  unfold CatalogEntry.rawBinding
  rw [hmembers]
  exact readBinding_object (by simp) (by simp) rfl rfl rfl

/-! ## Metadata -/

theorem FunctionMetadata.Consistent.of_forall₂ {m : FunctionMetadata}
    (h : List.Forall₂ (fun raw b => ∃ entry, Tells raw b entry) m.rawBindings m.bindings) : m.Consistent where
  length := h.length_eq
  tells i raw binding hraw hbinding := by
    obtain ⟨hi, rfl⟩ := List.getElem?_eq_some_iff.1 hraw
    obtain ⟨hi', rfl⟩ := List.getElem?_eq_some_iff.1 hbinding
    exact h.get hi hi'

theorem CatalogEntry.toMetadata_consistent (e : CatalogEntry) (functionId directory : String) :
    (e.toMetadata functionId directory).Consistent := by
  refine .of_forall₂ (List.forall₂_map_left_iff.2 (List.forall₂_same.2 fun b _ => ?_))
  exact ⟨_, readBinding_rawBinding b, rfl, rfl, MetadataFile.direction?_name _⟩

namespace MetadataFile

open Job (EndsWith)

theorem toMetadata_consistent {e : Entry} {functionId directory : String} {m : FunctionMetadata}
    (h : toMetadata e functionId directory = .ok m) : m.Consistent := by
  unfold toMetadata at h
  cases hbindings : bindings e.name e.bindings with
  | error err =>
    rw [hbindings] at h
    cases h
  | ok bs =>
    rw [hbindings] at h
    cases h
    exact .of_forall₂ (List.forall₂_map_left_iff.2 ((bindings_eq_ok hbindings).imp fun b _ ht => ⟨b, ht⟩))

variable {α : Type}

/-- The metadata of entries are consistent, whatever is made of them afterwards. -/
theorem allMetadata_bind {P : Except Panic α → Prop} {directory : String} :
    ∀ {entries : List Entry} {g : Except MetadataError (List FunctionMetadata) → Code α},
      (∀ listed, (∀ ms, listed = .ok ms → ∀ m ∈ ms, m.Consistent) → EndsWith P (Code.job (g listed))) →
        EndsWith P (Code.job ((allMetadata directory entries).bind g))
  | [], g, h => h (.ok []) fun ms hms m hm => by
    cases hms
    cases hm
  | e :: entries, g, h => by
    refine EndsWith.op fun (id : String) => ?_
    show EndsWith P (Code.job (Routine.bind _ g))
    dsimp only
    cases hm : toMetadata e id directory with
    | error err => exact h (.error err) nofun
    | ok m =>
      dsimp only
      rw [Routine.bind_bind]
      refine allMetadata_bind fun listed hlisted => h (listed.map (m :: ·)) fun ms hms x hx => ?_
      cases listed with
      | error err => cases hms
      | ok rest =>
        cases hms
        rcases List.mem_cons.1 hx with rfl | hx
        · exact toMetadata_consistent hm
        · exact hlisted rest rfl x hx

theorem provide_consistent (files : List (String × Bytes)) (directory : String) :
    (Code.job (provide files directory)).EndsWith fun r => ∀ ms, r = .ok (.ok ms) → ∀ m ∈ ms, m.Consistent := by
  unfold provide
  dsimp only
  split
  · exact EndsWith.pure nofun
  · split
    · exact EndsWith.pure nofun
    · split
      · exact EndsWith.pure nofun
      · rename_i entries _
        rw [← Routine.bind_done (allMetadata directory entries)]
        refine allMetadata_bind fun listed hlisted => EndsWith.pure fun ms hms => hlisted ms ?_
        exact Except.ok.inj hms

end MetadataFile

/-- All metadata that are made for the host tell the bindings twice and alike. -/
theorem made_consistent {m : FunctionMetadata} (h : m.Made) : m.Consistent := by
  cases h with
  | catalog e functionId directory => exact e.toMetadata_consistent functionId directory
  | file run mem => exact MetadataFile.provide_consistent _ _ _ _ _ _ run _ rfl _ mem

/-- A file whose binding has an escaped quote in its name and capitals in its direction. -/
def quotedText : String :=
  "[\x7b\"name\":\"f\",\"bindings\":[\x7b\"direction\":\"InOut\",\"name\":\"q\\u0022\",\"type\":\"queue\"\x7d]\x7d]"

/-- What is made of it. -/
def quotedFunction : FunctionMetadata where
  functionId := "01000000000000000000000000"
  name := "f"
  entryPoint := "f"
  scriptFile := ""
  directory := ""
  language := language
  bindings := [("q\"", ⟨"queue", .both⟩)]
  rawBindings := ["\x7b\"name\":\"q\\\"\",\"type\":\"queue\",\"direction\":\"InOut\"\x7d"]
  retry := none

/-- An entry of a catalog with quotes in the names of a binding. -/
def quotedEntry : CatalogEntry := (CatalogEntry.ofHandler "g" 0).input "in\"" ⟨"String", .text⟩ "blob"

theorem made_consistent_quoted : quotedFunction.Made ∧ quotedFunction.Consistent ∧
    (quotedEntry.toMetadata "1" "").Consistent ∧ (quotedEntry.toMetadata "1" "").rawBindings =
      ["\x7b\"direction\":\"in\",\"name\":\"in\\\"\",\"type\":\"blob\"\x7d"] := by
  let files := [(MetadataFile.fileName, Text.utf8 quotedText)]
  have hcontent : MetadataFile.content files MetadataFile.fileName = .ok (Text.utf8 quotedText) := by
    have hclear : MetadataFile.fileName.contains '\x00' = false := by
      rw [String.contains_char_eq]
      decide +kernel
    unfold MetadataFile.content
    simp [hclear, files]
  have hjoin : MetadataFile.join "" MetadataFile.fileName = MetadataFile.fileName := by decide +kernel
  have hresult : (Routine.run Effect.alone (Code.job (MetadataFile.provide files "")) {}).1 =
      .ok (.ok [quotedFunction]) := by
    simp only [MetadataFile.provide, hjoin, hcontent, Text.ofUtf8?_utf8]
    decide +kernel
  obtain ⟨es, -, run⟩ := Job.run_alone (Code.job (MetadataFile.provide files "")) {}
  rw [hresult] at run
  have hmade : quotedFunction.Made := .file run List.mem_cons_self
  exact ⟨hmade, made_consistent hmade, made_consistent (.catalog quotedEntry "1" ""), by decide +kernel⟩

end FunctionWorker
