import FixCorpus.Proofs.Tokenization.Stages

/-! What a tokenization fails with. The checks of the lexer and of the window
never fail: what is left is a line that the index does not find, an edit that
names a line the file does not have, and required lines of too many tokens. -/

namespace FixCorpus

namespace Tokenization

open Lexer (newlineCount_tokenize)

/-- The failures of a tokenization with a budget for its window. -/
inductive Failure (budget : Nat) : TokenizeError → Prop
  | line (line : Int) : Failure budget (.lineOutOfRange line)
  | overflow {required : Nat} (exceeds : budget < required) :
      Failure budget (.window (.contextOverflow required budget))
  | edit (cause : ApplyError) : Failure budget (.apply cause)

variable {budget : Nat} {e : TokenizeError}

theorem tokenRange_eq_error {tokens : List Token} {first last : Int}
    (failed : tokenRange tokens first last = .error e) : ∃ line, e = .lineOutOfRange line := by
  have checked : ∀ {line : Int}, checkedLine line = .error e → ∃ line, e = .lineOutOfRange line := by
    intro line refused
    unfold checkedLine at refused
    split at refused
    · cases refused
    · exact ⟨line, (Except.error.inj refused).symm⟩
  simp only [tokenRange, except_bind_eq_error] at failed
  rcases failed with refused | ⟨m, -, refused | ⟨n, -, failed⟩⟩
  · exact checked refused
  · exact checked refused
  · split at failed
    · cases failed
    · exact ⟨n + 1, (Except.error.inj failed).symm⟩

theorem failure_of_context {d : UnifiedDatapoint} {source : String} {style : Lexer.Style}
    (failed : context d source budget style = .error e) : Failure budget e := by
  simp only [context, checkedTokens_eq, except_bind_eq_error, reduceCtorEq, false_or,
    Except.ok.injEq] at failed
  obtain ⟨_, rfl, failed⟩ := failed
  rcases failed with refused | ⟨⟨a, b⟩, range, failed⟩
  · obtain ⟨line, rfl⟩ := tokenRange_eq_error refused
    exact .line line
  · obtain ⟨m, n, -, -, found⟩ := tokenRange_eq_ok range
    have bounds := LineIndex.bounds_of_tokenRange? found
    split at failed
    · cases failed
    · rename_i cause refused
      obtain ⟨exceeds, rfl⟩ := Window.select_eq_error bounds.1 bounds.2 refused
      cases failed
      exact .overflow exceeds

theorem failure_of_target {edit : Edit} {source : String} {style : Lexer.Style}
    (failed : target edit source style = .error e) : Failure budget e := by
  unfold target at failed
  split at failed
  · cases failed
  · split at failed
    · rename_i cause _
      cases failed
      exact .edit cause
    · simp only [checkedTokens_eq, except_bind_eq_error, reduceCtorEq, false_or,
        Except.ok.injEq] at failed
      obtain ⟨_, rfl, refused | ⟨_, -, done⟩⟩ := failed
      · obtain ⟨line, rfl⟩ := tokenRange_eq_error refused
        exact .line line
      · cases done

theorem failure_of_tokenizeDatapoint {d : UnifiedDatapoint} {source : String} {settings : Settings}
    (failed : tokenizeDatapoint d source settings = .error e) : Failure settings.budget e := by
  simp only [tokenizeDatapoint, streams, except_bind_eq_error] at failed
  rcases failed with (refused | ⟨_, -, refused | ⟨_, -, done⟩⟩) | ⟨_, -, done⟩
  · exact failure_of_context refused
  · exact failure_of_target refused
  · cases done
  · cases done

theorem internal_errors_unreachable (style : Lexer.Style) (text : String) (d : UnifiedDatapoint)
    (source : String) (settings : Settings) :
    (∀ t ∈ Lexer.tokenize style text, '\n' ∉ t.text.toList) ∧
    newlineCount (Lexer.tokenize style text) = Text.countNewlines text ∧
    (∀ token, tokenizeDatapoint d source settings ≠ .error (.tokenizationFault token)) ∧
    (∀ newlines expected,
      tokenizeDatapoint d source settings ≠ .error (.lineCountMismatch newlines expected)) ∧
    ∀ first last length, tokenizeDatapoint d source settings ≠
      .error (.window (.invalidRequiredRange first last length)) := by
  refine ⟨fun t member => (Lexer.lexical_tokenize member).newline_not_mem_text,
    newlineCount_tokenize style text, fun token failed => ?_, fun newlines expected failed => ?_,
    fun first last length failed => ?_⟩
  · cases failure_of_tokenizeDatapoint failed
  · cases failure_of_tokenizeDatapoint failed
  · cases failure_of_tokenizeDatapoint failed

end Tokenization

end FixCorpus
