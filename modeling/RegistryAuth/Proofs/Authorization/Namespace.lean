import Mathlib
import RegistryAuth.Proofs.Authorization.Permission
import RegistryAuth.Proofs.Components.Users
import RegistryAuth.Proofs.Text.Replace

/-! # Namespaces of users

A pattern that begins with the placeholder and a slash is meant to give each user a
namespace under the user's id. The id takes part in the match as a piece of the
pattern, though, where a star is not a literal character. Such patterns keep a
user to the namespace exactly if the id has no star.
-/

namespace RegistryAuth

namespace Subject

variable {subject : Subject}

/-- The resource is the subject's namespace or lies in it. -/
def Owns (subject : Subject) (resourceName : String) : Prop :=
  resourceName = subject.id ∨ ∃ rest, resourceName = subject.id ++ "/" ++ rest

def unstar (c : Char) : Char :=
  if c = '*' then 'x' else c

/-- The id with another character for every star. -/
def lookalike (subject : Subject) : String :=
  String.ofList (subject.id.toList.map unstar)

theorem unstar_ne (c : Char) : unstar c ≠ '*' := by
  unfold unstar
  split
  · decide
  · assumption

theorem unstar_eq_slash_iff (c : Char) : unstar c = '/' ↔ c = '/' := by
  unfold unstar
  split
  next hc => simp [hc]
  next => rfl

theorem not_owns_lookalike (h : '*' ∈ subject.id.toList) : ¬ subject.Owns subject.lookalike := by
  rintro (he | ⟨rest, he⟩)
  · rw [← he, lookalike, String.toList_ofList] at h
    obtain ⟨c, -, hc⟩ := List.mem_map.mp h
    exact unstar_ne c hc
  -- The lookalike is as long as the id, and a name in the namespace is longer.
  · have hl := congrArg (fun name => name.toList.length) he
    simp [lookalike] at hl

end Subject

namespace Rule

variable {subject : Subject} {rest resourceName : String}

/-- Every pattern of the rule begins with the placeholder of the subject and a slash. -/
def IsPersonal (rule : Rule) : Prop :=
  ∀ pattern ∈ rule.names, ∃ rest, pattern = "\x7bsubject\x7d/" ++ rest

/-- Each user may pull from the namespace of their own. -/
def personal : Rule :=
  ⟨false, [], [], "repository", ["\x7bsubject\x7d/" ++ "**"], ["pull"]⟩

theorem personal_isPersonal : personal.IsPersonal := by
  intro pattern hm
  obtain rfl := List.mem_singleton.mp hm
  exact ⟨"**", rfl⟩

theorem toList_expandPattern (pattern : String) (subject : Subject) :
    (expandPattern pattern subject).toList =
      Text.replace ('\x7b' :: "subject\x7d".toList) subject.id.toList pattern.toList := by
  have hp : "\x7bsubject\x7d".toList = '\x7b' :: "subject\x7d".toList := by decide
  rw [← hp]
  exact String.toList_ofList

theorem toList_expandPattern_personal :
    (expandPattern ("\x7bsubject\x7d/" ++ rest) subject).toList =
      subject.id.toList ++ '/' :: (expandPattern rest subject).toList := by
  have hp : "\x7bsubject\x7d/".toList = ('\x7b' :: "subject\x7d".toList) ++ ['/'] := by decide
  rw [toList_expandPattern, toList_expandPattern, String.toList_append, hp, List.append_assoc,
    Text.replace_append (List.cons_ne_nil _ _), List.singleton_append,
    Text.replace_cons_of_ne (by decide)]

theorem expandPattern_stars : expandPattern "**" subject = "**" := by
  have hs : "**".toList = ['*', '*'] := by decide
  apply String.toList_inj.mp
  rw [toList_expandPattern, hs, Text.replace_cons_of_ne (by decide),
    Text.replace_cons_of_ne (by decide), Text.replace]

theorem matches_personal_iff :
    Glob.Matches (expandPattern ("\x7bsubject\x7d/" ++ rest) subject) resourceName ↔
      ∃ before after, Text.splitOn '/' resourceName.toList = before ++ after ∧
        Glob.Cuts Glob.SegmentTakes (Text.splitOn '/' subject.id.toList) before ∧
        Glob.Cuts Glob.SegmentTakes
          (Text.splitOn '/' (expandPattern rest subject).toList) after := by
  rw [Glob.Matches, toList_expandPattern_personal, Text.splitOn_append, Glob.cuts_append_iff]

/-- An id without a star is taken literally. -/
theorem owns_of_matches (hid : '*' ∉ subject.id.toList)
    (h : Glob.Matches (expandPattern ("\x7bsubject\x7d/" ++ rest) subject) resourceName) :
    subject.Owns resourceName := by
  obtain ⟨before, after, hs, hb, -⟩ := matches_personal_iff.mp h
  have hlit : ∀ segment ∈ Text.splitOn '/' subject.id.toList, '*' ∉ segment :=
    fun segment hm hc => hid (Text.mem_of_mem_splitOn hm hc)
  obtain rfl := (Glob.cuts_segmentTakes_iff_eq hlit).mp hb
  have hj := congrArg (List.intercalate ['/']) hs
  rw [Text.intercalate_splitOn] at hj
  cases after with
  | nil =>
    rw [List.append_nil, Text.intercalate_splitOn] at hj
    exact .inl (String.toList_inj.mp hj)
  | cons segment after =>
    have hn : Text.splitOn '/' subject.id.toList ≠ [] := Text.splitWhere_ne_nil _ _
    rw [Text.intercalate_append hn, Text.intercalate_splitOn] at hj
    refine .inr ⟨String.ofList (List.intercalate ['/'] (segment :: after)), ?_⟩
    exact String.toList_inj.mp (by simpa using hj)

/-- An id with stars matches what looks like it. -/
theorem matches_lookalike (subject : Subject) :
    Glob.Matches (expandPattern ("\x7bsubject\x7d/" ++ "**") subject) subject.lookalike := by
  have hs : Text.splitOn '/' subject.lookalike.toList =
      (Text.splitOn '/' subject.id.toList).map (List.map Subject.unstar) := by
    rw [Subject.lookalike, String.toList_ofList, Text.splitOn_map Subject.unstar_eq_slash_iff]
  refine matches_personal_iff.mpr ⟨_, [], by rw [hs, List.append_nil], ?_, ?_⟩
  · refine Glob.cuts_map fun segment _ => .inr ⟨_, rfl, Glob.cuts_map fun c _ => ?_⟩
    by_cases hc : c = '*'
    · exact .inl hc
    · exact .inr (by rw [Subject.unstar, if_neg hc])
  · rw [expandPattern_stars]
    exact Glob.cuts_cons_iff.mpr ⟨[], [], rfl, .inl rfl, Glob.cuts_nil_iff.mpr rfl⟩

theorem personal_permits_lookalike (hid : subject.id ≠ "") :
    personal.Permits subject "repository" subject.lookalike "pull" where
  appliesTo := .inr ⟨rfl, hid, .inr rfl, nofun⟩
  resourceType_eq := rfl
  matches_name := ⟨_, List.mem_cons_self, matches_lookalike subject⟩
  allows_action := .inl List.mem_cons_self

end Rule

namespace RuleSet

/-- Rules for namespaces keep to them just for subjects without a star in their ids. -/
theorem grant_keeps_namespace_iff (subject : Subject) :
    (∀ (ruleSet : RuleSet) (requested : List Scope), (∀ rule ∈ ruleSet.rules, rule.IsPersonal) →
      ∀ scope ∈ ruleSet.grant subject requested, subject.Owns scope.resourceName) ↔
      '*' ∉ subject.id.toList := by
  constructor
  · intro h hid
    have hn : subject.id ≠ "" := by
      intro he
      rw [he] at hid
      exact absurd hid (by decide)
    have hp : (RuleSet.mk [Rule.personal]).Permits subject "repository" subject.lookalike
        "pull" :=
      ⟨_, List.mem_cons_self, Rule.personal_permits_lookalike hn⟩
    have hr : Scope.Allows [⟨"repository", subject.lookalike, ["pull"]⟩] "repository"
        subject.lookalike "pull" :=
      ⟨_, List.mem_cons_self, rfl, rfl, List.mem_cons_self⟩
    obtain ⟨scope, hm, -, ho, -⟩ := allows_grant_iff.mpr ⟨hr, hp⟩
    have hown := h _ _ (List.forall_mem_singleton.mpr Rule.personal_isPersonal) scope hm
    exact Subject.not_owns_lookalike hid (ho ▸ hown)
  · intro hid ruleSet requested hp scope hm
    obtain ⟨_, -, rfl, hn⟩ := mem_grant_iff.mp hm
    obtain ⟨action, ha⟩ := List.exists_mem_of_ne_nil _ hn
    obtain ⟨rule, hr, hpr⟩ := (mem_permittedPart_iff.mp ha).2
    obtain ⟨pattern, hpat, hg⟩ := hpr.matches_name
    obtain ⟨rest, rfl⟩ := hp rule hr pattern hpat
    exact Rule.owns_of_matches hid hg

/-- A user may have a star for a name and then reaches every resource. -/
theorem star_user_leaves_namespace :
    (∃ hash, (UserConfig.mk [⟨"*", hash, true, []⟩]).validate = .ok ()) ∧
      (∀ rule ∈ [Rule.personal], rule.IsPersonal) ∧
      (RuleSet.mk [Rule.personal]).grant (Subject.ofId "*")
          [⟨"repository", "alice/app", ["pull"]⟩] = [⟨"repository", "alice/app", ["pull"]⟩] ∧
      ¬ (Subject.ofId "*").Owns "alice/app" := by
  refine ⟨?_, ?_, ?_, ?_⟩
  · have hn : "*" ≠ "" := by decide
    obtain ⟨hash, -, hv⟩ := User.exists_passwordHash hn "secret"
    exact ⟨hash, UserConfig.validate_singleton (hv true [])⟩
  · exact List.forall_mem_singleton.mpr Rule.personal_isPersonal
  · cbv
  · rintro (h | ⟨rest, h⟩)
    · exact absurd h (by decide)
    · have hl := congrArg String.toList h
      simp [Subject.ofId] at hl

end RuleSet

end RegistryAuth
