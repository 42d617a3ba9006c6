import Gearwit.Foundations.JsonText

/-!
# JSON objects with ordered members

An object built from a list of members keeps one value for each name, the last one listed,
in the order of the names.
-/

namespace Gearwit
namespace Json

/-- Members with one more, or with a new value for its name. -/
def insertMember (name : String) (value : Json) : List (String × Json) → List (String × Json)
  | [] => [(name, value)]
  | entry :: rest =>
      if name < entry.1 then (name, value) :: entry :: rest
      else if name = entry.1 then (name, value) :: rest
      else entry :: insertMember name value rest

/-- Object of the listed members. -/
def ofMembers (members : List (String × Json)) : Json :=
  .object (members.foldl (fun listed entry => insertMember entry.1 entry.2 listed) [])

/-- Truth value. -/
def asBool : Json → Option Bool
  | .bool value => some value
  | _ => none

/-- Whether the value is null. -/
def isNull : Json → Bool
  | .null => true
  | _ => false

private theorem find_insertMember (name searched : String) (value : Json)
    (members : List (String × Json)) :
    (insertMember name value members).find? (fun entry => entry.1 == searched) =
      if name = searched then some (name, value)
      else members.find? fun entry => entry.1 == searched := by
  induction members with
  | nil =>
      by_cases same : name = searched <;> simp [insertMember, same]
  | cons entry rest inductionHypothesis =>
      by_cases same : name = searched
      · subst same
        rw [if_pos rfl] at inductionHypothesis ⊢
        unfold insertMember
        split_ifs with before equal
        · simp
        · simp
        · have other : (entry.1 == name) = false := by
            simpa using fun same => equal (Eq.symm same)
          rw [List.find?_cons_of_neg (by simp [other]), inductionHypothesis]
      · rw [if_neg same] at inductionHypothesis ⊢
        have unnamed : (name == searched) = false := by simpa using same
        unfold insertMember
        split_ifs with before equal
        · rw [List.find?_cons_of_neg (by simp [unnamed])]
        · rw [List.find?_cons_of_neg (by simp [unnamed]),
            List.find?_cons_of_neg (by simp [← equal, unnamed])]
        · rw [List.find?_cons, List.find?_cons, inductionHypothesis]

/-- Value of the last listed member with a name. -/
def lastMember (name : String) : List (String × Json) → Option Json
  | [] => none
  | entry :: rest => (lastMember name rest).or (if entry.1 = name then some entry.2 else none)

/-- The last member of a name is the one that counts. -/
theorem get_ofMembers (name : String) (members : List (String × Json)) :
    (ofMembers members).get name = lastMember name members := by
  have kept : ∀ listed : List (String × Json),
      ((members.foldl (fun listed entry => insertMember entry.1 entry.2 listed) listed).find?
          fun entry => entry.1 == name).map Prod.snd =
        (lastMember name members).or
          ((listed.find? fun entry => entry.1 == name).map Prod.snd) := by
    induction members with
    | nil => exact fun listed => rfl
    | cons entry rest inductionHypothesis =>
        intro listed
        rw [List.foldl_cons, inductionHypothesis, lastMember, find_insertMember]
        cases lastMember name rest with
        | some value => rfl
        | none =>
            rw [Option.none_or, Option.none_or]
            by_cases same : entry.1 = name
            · rw [if_pos same, if_pos same]
              rfl
            · rw [if_neg same, if_neg same, Option.none_or]
  have whole := kept []
  simpa [ofMembers, get] using whole

end Json
end Gearwit
