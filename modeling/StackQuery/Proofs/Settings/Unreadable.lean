import StackQuery.Proofs.Traversal
import StackQuery.Settings.Environment

/-!
# Variables that hold no JSON

The environment gives no settings exactly if the variable of a list or of a record holds no JSON. That is said of
the variables alone: which of them are read, and which of those are read as JSON.
-/
namespace StackQuery.Settings

/-- The variables by their names in lower case; of two, the later counts. -/
def lowered (env : Environment) : OrderedMap String String :=
  OrderedMap.ofList (env.map fun v => (Text.lowercase v.1, v.2))

/-- A variable is that of a member which is a list or a record, and holds text that is no JSON. -/
def UnreadableMember (setting : String) (shape : Shape) (v : String × String) : Prop :=
  ∃ rest, v.1.toList = (variablePrefix ++ setting ++ pathSeparator).toList ++ rest ∧
    ((shape.at? ((String.ofList rest).splitOn pathSeparator)).map Shape.isComplex).getD false = true ∧
    v.2 ≠ "" ∧ Json.read? v.2 = none

/-- A variable of a list or of a record holds no JSON: that of the setting, or that of a member, unless the variable
of the setting holds something else than a record. -/
inductive Unreadable (vars : OrderedMap String String) (setting : String) (shape : Shape) : Prop
  | own {text : String} : vars.get? (variablePrefix ++ setting) = some text → Json.read? text = none →
      Unreadable vars setting shape
  | member {v : String × String} :
      (∀ text, vars.get? (variablePrefix ++ setting) = some text →
        ∃ members, Json.read? text = some (.object members)) →
      v ∈ vars.entries → UnreadableMember setting shape v → Unreadable vars setting shape

theorem exists_readJson_error_iff {setting text : String} :
    (∃ e, readJson setting text = .error e) ↔ Json.read? text = none := by
  rw [readJson]
  cases Json.read? text <;> simp

theorem exists_memberValue_error_iff {setting text : String} {shape : Option Shape} :
    (∃ e, memberValue setting shape text = .error e) ↔
      (shape.map Shape.isComplex).getD false = true ∧ text ≠ "" ∧ Json.read? text = none := by
  rw [memberValue]
  split
  · next h =>
    rw [Bool.and_eq_true, bne_iff_ne] at h
    rw [exists_readJson_error_iff]
    exact ⟨fun hread => ⟨h.1, h.2, hread⟩, fun hread => hread.2.2⟩
  · next h =>
    rw [Bool.and_eq_true, bne_iff_ne] at h
    exact ⟨nofun, fun hread => absurd ⟨hread.1, hread.2.1⟩ h⟩

theorem exists_membersFrom_error_iff {setting : String} {shape : Shape} {env : Environment} :
    (∃ e, membersFrom setting shape env = .error e) ↔ ∃ v ∈ env, UnreadableMember setting shape v := by
  refine exists_foldlM_error_iff (fun members v => ?_) env []
  obtain ⟨name, text⟩ := v
  dsimp only
  split
  · next h =>
    obtain ⟨rest, hrest⟩ := List.isPrefixOf_iff_prefix.mp h
    have hdrop : name.toList.drop (variablePrefix ++ setting ++ pathSeparator).toList.length = rest := by
      rw [← hrest, List.drop_left]
    rw [hdrop, exists_bind_error_iff, exists_memberValue_error_iff]
    constructor
    · rintro (hvalue | ⟨value, -, e, he⟩)
      · exact ⟨rest, hrest.symm, hvalue⟩
      · cases he
    · rintro ⟨rest', hrest', hvalue⟩
      have hsame : rest' = rest := List.append_cancel_left (hrest'.symm.trans hrest.symm)
      rw [hsame] at hvalue
      exact .inl hvalue
  · next h =>
    refine ⟨nofun, ?_⟩
    rintro ⟨rest, hrest, -⟩
    exact absurd (List.isPrefixOf_iff_prefix.mpr ⟨rest, hrest.symm⟩) h

/-- The value of a simple setting is its variable as it is; for any other, what its variables hold has to be JSON. -/
theorem exists_settingFrom_error_iff {vars : OrderedMap String String} {setting : String} {shape : Shape} :
    (∃ e, settingFrom vars setting shape = .error e) ↔ shape.isComplex = true ∧ Unreadable vars setting shape := by
  cases hshape : shape.isComplex with
  | false =>
    rw [settingFrom, hshape]
    constructor
    · rintro ⟨e, he⟩
      cases he
    · rintro ⟨hcomplex, -⟩
      cases hcomplex
  | true =>
    have hmembers {f : List (String × Raw) → Except UnreadableVariable (Option Raw)}
        (hf : ∀ members, ∃ v, f members = .ok v) :
        (∃ e, membersFrom setting shape vars.entries >>= f = .error e) ↔
          ∃ v ∈ vars.entries, UnreadableMember setting shape v := by
      rw [exists_bind_error_iff, exists_membersFrom_error_iff]
      refine or_iff_left ?_
      rintro ⟨members, -, e, he⟩
      obtain ⟨v, hv⟩ := hf members
      cases hv.symm.trans he
    rw [settingFrom, hshape, eq_self, true_and]
    cases hown : vars.get? (variablePrefix ++ setting) with
    | none =>
      refine Iff.trans (hmembers fun members => ?_) ⟨?_, ?_⟩
      · cases members <;> exact ⟨_, rfl⟩
      · rintro ⟨v, hv, hunread⟩
        exact .member (fun text htext => by cases hown.symm.trans htext) hv hunread
      · rintro (⟨htext, -⟩ | ⟨-, hv, hunread⟩)
        · cases hown.symm.trans htext
        · exact ⟨_, hv, hunread⟩
    | some text =>
      have hsame {text' : String} (h : vars.get? (variablePrefix ++ setting) = some text') : text' = text :=
        Option.some.inj (h.symm.trans hown)
      cases hread : Json.read? text with
      | none =>
        refine ⟨fun _ => .own hown hread, fun _ => ⟨⟨setting⟩, ?_⟩⟩
        change (readJson setting text >>= _) = _
        rw [readJson, hread]
        rfl
      | some json =>
        have hnotOwn {text' : String} (h : vars.get? (variablePrefix ++ setting) = some text')
            (hnone : Json.read? text' = none) : False := by
          rw [hsame h, hread] at hnone
          cases hnone
        have hjson : readJson setting text = .ok (.ofJson json) := by rw [readJson, hread]
        change (∃ e, (readJson setting text >>= _) = .error e) ↔ _
        rw [hjson]
        cases json with
        | object members =>
          rw [Raw.ofJson]
          refine Iff.trans (hmembers (f := fun own =>
            .ok (some (align shape (.record (Raw.overlayMembers own (Raw.ofJsonMembers members))))))
            fun own => ⟨_, rfl⟩) ⟨?_, ?_⟩
          · rintro ⟨v, hv, hunread⟩
            exact .member (fun text' htext' => ⟨members, by rw [hsame htext', hread]⟩) hv hunread
          · rintro (⟨htext, hnone⟩ | ⟨-, hv, hunread⟩)
            · exact (hnotOwn htext hnone).elim
            · exact ⟨_, hv, hunread⟩
        | null | bool | number | string | array =>
          constructor
          · rintro ⟨e, he⟩
            cases he
          · rintro (⟨htext, hnone⟩ | ⟨hobject, -, -⟩)
            · exact (hnotOwn htext hnone).elim
            · obtain ⟨members, hmembers⟩ := hobject text hown
              cases hread.symm.trans hmembers

/-- The environment gives settings unless a variable of a list or a record holds no JSON. -/
theorem exists_fromEnvironment_error_iff {env : Environment} :
    (∃ e, fromEnvironment env = .error e) ↔
      ∃ s ∈ Shape.settings, s.2.isComplex = true ∧ Unreadable (lowered env) s.1 s.2 := by
  have hsettings : (∃ e, fromEnvironment env = .error e) ↔
      ∃ e, (Shape.settings.mapM fun s => do
        return (← settingFrom (lowered env) s.1 s.2).map fun value => (s.1, value)) = .error e := by
    rw [fromEnvironment, exists_bind_error_iff]
    refine or_iff_left ?_
    rintro ⟨found, -, e, he⟩
    cases he
  rw [hsettings, exists_mapM_error_iff]
  refine exists_congr fun s => and_congr_right fun _ => ?_
  rw [exists_bind_error_iff, exists_settingFrom_error_iff]
  refine or_iff_left ?_
  rintro ⟨value, -, e, he⟩
  cases he

end StackQuery.Settings
