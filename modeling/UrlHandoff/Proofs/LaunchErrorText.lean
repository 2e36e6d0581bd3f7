import UrlHandoff.SystemError
import UrlHandoff.Proofs.EscapedText

namespace UrlHandoff.LaunchError

open Text

def opening : List Char := "failed to open ".toList ++ ['"']

def separator : List Char := " in default browser: ".toList

def told? (message : String) : Option (String × String) :=
  (readQuoted .body (message.toList.drop opening.length)).map fun (url, rest) =>
    (String.ofList url, String.ofList (rest.drop separator.length))

theorem toList_message (error : LaunchError) :
    error.message.toList =
      opening ++ (escaped error.url.toList ++ '"' :: (separator ++ error.source.message.toList)) :=
  toList_quoted _ error.url _ error.source.message

theorem told?_message (error : LaunchError) :
    told? error.message = some (error.url, error.source.message) := by
  rw [told?, toList_message, List.drop_left, readQuoted_escaped, Option.map_some]
  simp only [List.drop_left, String.ofList_toList]

/-- Errors of one message are about one URL and have causes of one text. The URL stands between
quotes without line breaks or control characters, no quote before the closing one is free of a
backslash, and one scan gives back what was written. -/
theorem message_identifies (error : LaunchError) :
    (∀ other : LaunchError, other.message = error.message →
        other.url = error.url ∧ other.source.message = error.source.message) ∧
      told? error.message = some (error.url, error.source.message) ∧
      ∃ text body, error.message.toList = opening ++ text ∧
        FirstQuote text body (separator ++ error.source.message.toList) ∧
        ∀ c ∈ body, Shown c := by
  have firstQuote : FirstQuote
      (escaped error.url.toList ++ '"' :: (separator ++ error.source.message.toList))
      (escaped error.url.toList) (separator ++ error.source.message.toList) :=
    ⟨rfl, not_escaping_escaped _, quote_of_escaped _⟩
  refine ⟨fun other same => ?_, told?_message error, _, _, toList_message error, firstQuote,
    shown_of_mem_escaped _⟩
  have told := told?_message other
  rw [same, told?_message error, Option.some.injEq, Prod.mk.injEq] at told
  exact ⟨told.1.symm, told.2.symm⟩

theorem message_identifies_misleading_url :
    let url := "\" in default browser: \\u\x7b22\x7d\n\u0301"
    let error : LaunchError := ⟨url, .described .notFound "\" in default browser: x"⟩
    let other : LaunchError := ⟨url, .described .other "\" in default browser: x"⟩
    other ≠ error ∧ other.message = error.message ∧
      other.url = error.url ∧ other.source.message = error.source.message ∧
      told? error.message = some (url, "\" in default browser: x") := by
  intro url error other
  have same : other.message = error.message := rfl
  obtain ⟨unique, told, -⟩ := message_identifies error
  obtain ⟨sameUrl, sameCause⟩ := unique other same
  exact ⟨by simp [error, other], same, sameUrl, sameCause, told⟩

end UrlHandoff.LaunchError
