import FixCorpus.Proofs.Lexer.Alias
import FixCorpus.Proofs.Tokenization.Stages

/-! Tokenization with aliases is tokenization without them, with the names
renamed. The aliases in force at the end rename the context, the target and the
messages alike, and no token that is left as it is reads like one of them. Main
statement: `zeroIndexVars_renames_standard`. -/

namespace FixCorpus.Tokenization

namespace Streams

def tokens (s : Streams) : List Token :=
  s.context ++ (s.target ++ s.messages.flatten)

def names (s : Streams) : List String :=
  (nameTexts s.tokens).eraseDups

def rename (f : String → String) (s : Streams) : Streams :=
  { s with
    context := s.context.map (Token.rename f)
    target := s.target.map (Token.rename f)
    messages := s.messages.map (·.map (Token.rename f)) }

theorem tokens_rename (f : String → String) (s : Streams) :
    (s.rename f).tokens = s.tokens.map (Token.rename f) := by
  simp [tokens, rename, List.map_flatten]

def aliases (s : Streams) : Aliases :=
  (Aliases.empty.apply s.tokens).1

theorem names_aliases (s : Streams) : s.aliases.names = s.names := by
  have start : Aliases.empty.names = ([] : List String).eraseDups := rfl
  exact Aliases.names_apply_eq start

theorem nodup_names (s : Streams) : s.names.Nodup := by
  rw [← names_aliases]
  exact Aliases.names_nodup_apply List.nodup_nil

theorem applyAliases_eq {a b : Aliases} {lists : List (List Token)}
    (more : (a.apply lists.flatten).1.names <+: b.names) :
    applyAliases a lists = lists.map (·.map (Token.rename b.aliasOf)) := by
  induction lists generalizing a with
  | nil => rfl
  | cons tokens lists ih =>
    rw [List.flatten_cons, Aliases.apply_append] at more
    have here := (Aliases.prefix_names_apply _ _).trans more
    rw [List.map_cons, ← ih more, ← Aliases.apply_eq_map here]
    rfl

theorem withAliases_eq (s : Streams) : s.withAliases = s.rename s.aliases.aliasOf := by
  have final : (((Aliases.empty.apply s.context).1.apply s.target).1.apply
      s.messages.flatten).1 = s.aliases := by
    rw [aliases, tokens, Aliases.apply_append, Aliases.apply_append]
  have behind_target : ((Aliases.empty.apply s.context).1.apply s.target).1.names <+:
      s.aliases.names := final ▸ Aliases.prefix_names_apply _ _
  have behind_context : (Aliases.empty.apply s.context).1.names <+: s.aliases.names :=
    (Aliases.prefix_names_apply _ _).trans behind_target
  have messages := applyAliases_eq (List.prefix_refl (((Aliases.empty.apply s.context).1.apply
    s.target).1.apply s.messages.flatten).1.names)
  rw [rename, ← Aliases.apply_eq_map behind_context, ← Aliases.apply_eq_map behind_target,
    ← final, ← messages]
  rfl

end Streams

theorem mem_tokenize_of_target {edit : Edit} {source : String} {style : Lexer.Style}
    {target : List Token} (found : Tokenization.target edit source style = .ok target) {t : Token}
    (member : t ∈ target) : ∃ text, t ∈ Lexer.tokenize style text := by
  cases range : edit.requiredTargetLines? with
  | none =>
    simp only [Tokenization.target, range] at found
    cases found
    cases member
  | some lines =>
    obtain ⟨edited, -, m, n, before, after, -, -, shown⟩ := target_eq_ok found range
    refine ⟨Text.joinLines edited, ?_⟩
    rw [shown.parts]
    exact List.mem_append_left _ (List.mem_append_right _ member)

theorem forall_mem_streams {d : UnifiedDatapoint} {source : String} {budget : Nat}
    {style : Lexer.Style} {s : Streams} (found : streams d source budget style = .ok s)
    {P : Token → Prop} (code : ∀ text, ∀ t ∈ Lexer.tokenize style text, P t)
    (prose : ∀ text, ∀ t ∈ Lexer.Prose.tokenize style text, P t) : ∀ t ∈ s.tokens, P t := by
  obtain ⟨first, last, e, target, -, -, brought, rfl⟩ := streams_eq_ok found
  refine List.forall_mem_append.2 ⟨fun t member => ?_, List.forall_mem_append.2
    ⟨fun t member => ?_, fun t member => ?_⟩⟩
  · exact code source t (e.mem_of_mem_window member)
  · obtain ⟨text, listed⟩ := mem_tokenize_of_target brought member
    exact code text t listed
  · obtain ⟨tokens, listed, inside⟩ := List.mem_flatten.1 member
    obtain ⟨o, -, rfl⟩ := List.mem_map.1 listed
    exact prose _ t inside

theorem apart_streams {d : UnifiedDatapoint} {source : String} {budget : Nat}
    {style : Lexer.Style} {s : Streams} (found : streams d source budget style = .ok s) :
    ∀ t ∈ s.tokens, t.Apart :=
  forall_mem_streams found (Lexer.apart_tokenize style) (Lexer.Prose.apart_tokenize style)

theorem zeroIndexVars_renames_standard (d : UnifiedDatapoint) (source : String) (budget : Nat) :
    (∃ e, tokenizeDatapoint d source ⟨budget, .standard⟩ = .error e ∧
      tokenizeDatapoint d source ⟨budget, .zeroIndexVars⟩ = .error e) ∨
    ∃ (s : Streams) (f : String → String),
      streams d source budget .whole = .ok s ∧
      tokenizeDatapoint d source ⟨budget, .standard⟩ = .ok (s.attach d) ∧
      tokenizeDatapoint d source ⟨budget, .zeroIndexVars⟩ = .ok ((s.rename f).attach d) ∧
      s.names.map f = (List.range s.names.length).map numberedAlias ∧
      (∀ a ∈ s.names, ∀ b ∈ s.names, f a = f b → a = b) ∧
      ∀ t ∈ s.tokens, t.kind.isIdentifier = false → t.text ∉ s.names.map f := by
  cases found : streams d source budget .whole with
  | error e =>
    have failed : ∀ mode : Mode, mode.style = .whole →
        tokenizeDatapoint d source ⟨budget, mode⟩ = .error e := by
      intro mode style
      simp only [tokenizeDatapoint, style, found, bind, Except.bind]
    exact Or.inl ⟨e, failed .standard rfl, failed .zeroIndexVars rfl⟩
  | ok s =>
    have numbered : s.names.map s.aliases.aliasOf =
        (List.range s.names.length).map numberedAlias := by
      rw [← Streams.names_aliases]
      exact Aliases.map_aliasOf_names (s.names_aliases ▸ s.nodup_names)
    refine Or.inr ⟨s, s.aliases.aliasOf, rfl, ?_, ?_, numbered, fun a known b _ same => ?_,
      fun t member other listed => ?_⟩
    · simp only [tokenizeDatapoint, Mode.style, found, bind, Except.bind]
      rfl
    · simp only [tokenizeDatapoint, Mode.style, found, bind, Except.bind, ← s.withAliases_eq]
      rfl
    · exact Aliases.aliasOf_injective_on (s.names_aliases ▸ known) same
    · rw [numbered] at listed
      obtain ⟨n, -, same⟩ := List.mem_map.1 listed
      exact (apart_streams found t member).text_ne other n same.symm

end FixCorpus.Tokenization
