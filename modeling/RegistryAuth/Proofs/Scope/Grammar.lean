import RegistryAuth.Proofs.Scope.Actions
import RegistryAuth.Proofs.Text.Trim

/-! # The grammar of a scope

A scope is written as a type, a name and a list of actions with colons between
them. Only the name may hold further colons, so that a text can be taken apart in
one way at most. Just such texts are read, and what was read is read back from
its own text.
-/

namespace RegistryAuth.Scope

variable {scope : Scope} {text type name list : String}

/-- A type, a name and a list of actions with colons between them. -/
structure IsWritten (text type name list : String) : Prop where
  text_eq : text = type ++ ":" ++ name ++ ":" ++ list
  type_ne : type ≠ ""
  colon_not_mem_type : ':' ∉ type.toList
  name_ne : name ≠ ""
  colon_not_mem_list : ':' ∉ list.toList

/-- The list names the actions. They stand between commas, blanks around them do not count, and
neither does a second appearance. -/
def Lists (list : String) (actions : List String) : Prop :=
  ∃ pieces entries : List (List Char), pieces ≠ [] ∧ (∀ piece ∈ pieces, ',' ∉ piece) ∧
    [','].intercalate pieces = list.toList ∧ List.Forall₂ Text.IsInner entries pieces ∧
    actions = firstSeen (entries.map String.ofList)

def listedActions (list : String) : List String :=
  firstSeen ((Text.splitOn ',' list.toList).map fun piece => String.ofList (Text.trim piece))

theorem lists_iff {actions : List String} : Lists list actions ↔ actions = listedActions list := by
  constructor
  · rintro ⟨pieces, entries, hn, hc, hl, he, rfl⟩
    have hs : Text.splitOn ',' list.toList = pieces := by
      rw [← hl, Text.splitOn_intercalate hn hc]
    have ht : List.Forall₂ (· = ·) entries (pieces.map Text.trim) :=
      List.forall₂_map_right_iff.mpr (he.imp fun _ _ h => (Text.isInner_iff.mp h).symm)
    rw [List.forall₂_eq_eq_eq] at ht
    rw [ht, List.map_map, listedActions, hs]
    rfl
  · rintro rfl
    refine ⟨Text.splitOn ',' list.toList, (Text.splitOn ',' list.toList).map Text.trim,
      Text.splitWhere_ne_nil _ _, fun piece => Text.not_mem_of_mem_splitOn,
      Text.intercalate_splitOn ',' list.toList, ?_, ?_⟩
    · exact List.forall₂_map_left_iff.mpr (List.forall₂_same.mpr fun piece _ =>
        Text.isInner_trim piece)
    · rw [List.map_map]
      rfl

section Parts

theorem IsWritten.toList_eq (h : IsWritten text type name list) :
    text.toList = type.toList ++ ':' :: (name.toList ++ ':' :: list.toList) := by
  rw [h.text_eq]
  simp

theorem IsWritten.splitFirst?_eq (h : IsWritten text type name list) :
    Text.splitFirst? ':' text.toList = some (type.toList, name.toList ++ ':' :: list.toList) :=
  Text.splitFirst?_eq_some_iff.mpr ⟨h.toList_eq, h.colon_not_mem_type⟩

theorem IsWritten.splitLast?_eq (h : IsWritten text type name list) :
    Text.splitLast? ':' (name.toList ++ ':' :: list.toList) = some (name.toList, list.toList) :=
  Text.splitLast?_eq_some_iff.mpr ⟨rfl, h.colon_not_mem_list⟩

theorem IsWritten.unique {type' name' list' : String} (h : IsWritten text type name list)
    (h' : IsWritten text type' name' list') : type = type' ∧ name = name' ∧ list = list' := by
  obtain ⟨ht, hr⟩ := Prod.mk.inj (Option.some.inj (h.splitFirst?_eq.symm.trans h'.splitFirst?_eq))
  have hl := h.splitLast?_eq
  rw [hr, h'.splitLast?_eq] at hl
  obtain ⟨hn, ha⟩ := Prod.mk.inj (Option.some.inj hl)
  exact ⟨String.toList_inj.mp ht, String.toList_inj.mp hn.symm, String.toList_inj.mp ha.symm⟩

theorem parse_eq_ok_iff_isWritten :
    parse text = .ok scope ↔
      ∃ type name list, IsWritten text type name list ∧ scope = ⟨type, name, listedActions list⟩ := by
  rw [parse_eq_ok_iff, ofText?_eq_some_iff]
  simp only [ofActions, mergeActions_nil]
  constructor
  · rintro ⟨type, name, list, ht, hc, hl, hte, hne, rfl⟩
    refine ⟨String.ofList type, String.ofList name, String.ofList list, ?_, by simp [listedActions]⟩
    constructor
    case text_eq => exact String.toList_inj.mp (by simp [ht])
    all_goals simpa
  · rintro ⟨type, name, list, hw, rfl⟩
    refine ⟨type.toList, name.toList, list.toList, hw.toList_eq, hw.colon_not_mem_type,
      hw.colon_not_mem_list, ?_, ?_, by simp [listedActions]⟩
    · simpa using hw.type_ne
    · simpa using hw.name_ne

end Parts

section Texts

/-- An action as it can stand between the commas of a list. -/
structure IsEntry (action : String) : Prop where
  action_ne : action ≠ ""
  isTrimmed : Text.IsTrimmed action.toList
  colon_not_mem : ':' ∉ action.toList
  comma_not_mem : ',' ∉ action.toList

structure IsReadable (scope : Scope) : Prop where
  type_ne : scope.resourceType ≠ ""
  colon_not_mem : ':' ∉ scope.resourceType.toList
  name_ne : scope.resourceName ≠ ""
  actions : ∀ action ∈ scope.actions, IsEntry action
  nodup : scope.actions.Nodup

theorem mem_of_mem_listedActions {action : String} {c : Char} (h : action ∈ listedActions list)
    (hc : c ∈ action.toList) : c ∈ list.toList := by
  obtain ⟨hm, -⟩ := mem_firstSeen_iff.mp h
  obtain ⟨piece, hp, rfl⟩ := List.mem_map.mp hm
  rw [String.toList_ofList] at hc
  exact Text.mem_of_mem_splitOn hp (Text.mem_of_mem_trim hc)

theorem IsEntry.of_mem_listedActions {action : String} (hc : ':' ∉ list.toList)
    (h : action ∈ listedActions list) : IsEntry action := by
  have hn : ':' ∉ action.toList := fun hm => hc (mem_of_mem_listedActions h hm)
  obtain ⟨hm, hne⟩ := mem_firstSeen_iff.mp h
  obtain ⟨piece, hp, rfl⟩ := List.mem_map.mp hm
  refine ⟨hne, ?_, hn, ?_⟩ <;> rw [String.toList_ofList]
  · exact Text.isTrimmed_trim piece
  · exact fun hm => Text.not_mem_of_mem_splitOn hp (Text.mem_of_mem_trim hm)

/-- The actions in a written list are read as they are. -/
theorem listedActions_intercalate {actions : List String} (h : ∀ action ∈ actions, IsEntry action)
    (hn : actions.Nodup) :
    listedActions (String.ofList ([','].intercalate (actions.map String.toList))) = actions := by
  cases actions with
  | nil => rfl
  | cons first rest =>
    have hs := @Text.splitOn_intercalate ',' ((first :: rest).map String.toList) (by simp) (by
      intro piece hp
      obtain ⟨action, hm, rfl⟩ := List.mem_map.mp hp
      exact (h action hm).comma_not_mem)
    have ht : ∀ action ∈ first :: rest,
        ((fun piece => String.ofList (Text.trim piece)) ∘ String.toList) action = action := by
      intro action hm
      rw [Function.comp_apply, Text.trim_of_isTrimmed (h action hm).isTrimmed,
        String.ofList_toList]
    rw [listedActions, String.toList_ofList, hs, List.map_map, List.map_congr_left ht,
      List.map_id']
    exact firstSeen_of_nodup (fun hm => (h "" hm).action_ne rfl) hn

theorem IsReadable.of_parse (h : parse text = .ok scope) : scope.IsReadable := by
  obtain ⟨type, name, list, hw, rfl⟩ := parse_eq_ok_iff_isWritten.mp h
  exact ⟨hw.type_ne, hw.colon_not_mem_type, hw.name_ne,
    fun _ => .of_mem_listedActions hw.colon_not_mem_list, nodup_firstSeen _⟩

theorem IsReadable.isWritten_render (h : scope.IsReadable) :
    IsWritten scope.render scope.resourceType scope.resourceName
      (String.ofList ([','].intercalate (scope.actions.map String.toList))) where
  text_eq := String.toList_inj.mp (by simp [render, toText])
  type_ne := h.type_ne
  colon_not_mem_type := h.colon_not_mem
  name_ne := h.name_ne
  colon_not_mem_list hm := by
    rw [String.toList_ofList] at hm
    rcases Text.eq_or_mem_of_mem_intercalate hm with hc | ⟨piece, hp, hc⟩
    · cases hc
    · obtain ⟨action, ha, rfl⟩ := List.mem_map.mp hp
      exact (h.actions action ha).colon_not_mem hc

theorem IsReadable.firstSeen_actions (h : scope.IsReadable) :
    firstSeen scope.actions = scope.actions :=
  firstSeen_of_nodup (fun hm => (h.actions "" hm).action_ne rfl) h.nodup

/-- What reading can give, and nothing else, is read back from its own text. -/
theorem parse_render_iff : parse scope.render = .ok scope ↔ scope.IsReadable := by
  refine ⟨.of_parse, fun h => parse_eq_ok_iff_isWritten.mpr ⟨_, _, _, h.isWritten_render, ?_⟩⟩
  rw [listedActions_intercalate h.actions h.nodup]

end Texts

/-- The texts of the grammar are read, each in the one way in which it can be taken apart, and every
other text is an invalid request. What was read is read again from its own text. -/
theorem parse_accepts_grammar (text : String) :
    (∀ scope, parse text = .ok scope ↔
      ∃ type name list actions, IsWritten text type name list ∧ Lists list actions ∧
        scope = ⟨type, name, actions⟩) ∧
    (∀ type name list type' name' list', IsWritten text type name list →
      IsWritten text type' name' list' → type = type' ∧ name = name' ∧ list = list') ∧
    ((¬∃ type name list, IsWritten text type name list) →
      parse text = .error (.invalidRequest ("invalid scope " ++ Text.quoted text))) ∧
    ∀ scope, parse text = .ok scope → parse scope.render = .ok scope := by
  refine ⟨fun scope => ?_, fun _ _ _ _ _ _ => IsWritten.unique, fun hn => ?_,
    fun scope h => parse_render_iff.mpr (.of_parse h)⟩
  · simp only [parse_eq_ok_iff_isWritten, lists_iff, exists_and_left, exists_eq_left]
  · cases h : parse text with
    | error e =>
      rw [parse_eq_error h]
      rfl
    | ok scope =>
      obtain ⟨type, name, list, hw, -⟩ := parse_eq_ok_iff_isWritten.mp h
      exact absurd ⟨type, name, list, hw⟩ hn

/-- A name with a port is read whole and its list of actions tidied. A text without colons is
refused. -/
theorem name_with_port_is_read :
    parse "repository:localhost:5000/app: pull ,,push,pull" =
      .ok ⟨"repository", "localhost:5000/app", ["pull", "push"]⟩ ∧
    ¬IsWritten "repository:localhost:5000/app: pull ,,push,pull" "repository" "localhost"
      "5000/app: pull ,,push,pull" ∧
    parse (render ⟨"repository", "localhost:5000/app", ["pull", "push"]⟩) =
      .ok ⟨"repository", "localhost:5000/app", ["pull", "push"]⟩ ∧
    (¬∃ type name list, IsWritten "pull" type name list) ∧
    parse "pull" = .error (.invalidRequest ("invalid scope " ++ Text.quoted "pull")) := by
  have hw : IsWritten "repository:localhost:5000/app: pull ,,push,pull" "repository"
      "localhost:5000/app" " pull ,,push,pull" := by
    constructor <;> decide +kernel
  have hl : Lists " pull ,,push,pull" ["pull", "push"] := lists_iff.mpr (by decide +kernel)
  have hn : ¬∃ type name list, IsWritten "pull" type name list := by
    rintro ⟨type, name, list, h⟩
    have hc : ':' ∈ "pull".toList := by simp [h.toList_eq]
    revert hc
    decide +kernel
  obtain ⟨read, unique, -, again⟩ :=
    parse_accepts_grammar "repository:localhost:5000/app: pull ,,push,pull"
  have hp := (read _).mpr ⟨_, _, _, _, hw, hl, rfl⟩
  refine ⟨hp, fun h => ?_, again _ hp, hn, (parse_accepts_grammar "pull").2.2.1 hn⟩
  obtain ⟨-, hname, -⟩ := unique _ _ _ _ _ _ hw h
  revert hname
  decide +kernel

end RegistryAuth.Scope
