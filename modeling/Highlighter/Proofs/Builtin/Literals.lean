import Highlighter.Builtin.Grammars
import Highlighter.Proofs.Builtin.Themes
import Highlighter.Proofs.Spans.Literals
import Highlighter.Proofs.Tokenize.LiteralOrder

/-!
# Literals of the built-in grammars

The grammars of C, Rust and C# end in literals, and the built-in themes rank the scopes of literals
above or as high as most other scopes. So what is found inside a literal does not show, except for
escapes (`c_shows_literals`). The scopes of names are an exception: their selectors have three
segments, and those of literals have two. In Rust and C# a name inside a comment or a string shows
(`rust_csharp_show_literals`, `rust_comment_shows_name`), which C has no rule for.

In the tokens of each of these grammars the literals come in the order of the text, and no two of
them have text in common (`builtin_literals_in_order`). So no comment begins in a string or in
another comment, and no string begins in a comment.
-/

namespace Highlighter.Builtin

/-! ## The scopes of the grammars -/

/-- The scopes of C but for literals and escapes. -/
def cOthers : List String :=
  ["meta.preprocessor.c", "keyword.control.c", "storage.type.c", "keyword.other.cpp",
    "support.type.c", "constant.language.c", "constant.numeric.hex.c", "constant.numeric.float.c",
    "constant.numeric.integer.c", "keyword.operator.c"]

/-- The scopes of names in Rust. -/
def rustNames : List String :=
  ["entity.name.type.rust", "entity.name.function.rust", "entity.name.function.macro.rust"]

/-- The scopes of Rust but for literals and escapes. -/
def rustOthers : List String :=
  rustNames ++ ["keyword.control.rust", "keyword.other.rust", "constant.language.rust",
    "support.type.rust", "constant.numeric.hex.rust", "constant.numeric.binary.rust",
    "constant.numeric.octal.rust", "constant.numeric.float.rust", "constant.numeric.integer.rust",
    "keyword.operator.rust", "storage.modifier.lifetime.rust", "meta.attribute.rust"]

/-- The scopes of names in C#. -/
def csharpNames : List String := ["entity.name.type.cs"]

/-- The scopes of C# but for literals and escapes. -/
def csharpOthers : List String :=
  csharpNames ++ ["meta.preprocessor.cs", "keyword.control.cs", "keyword.other.cs",
    "storage.type.cs", "constant.language.cs", "constant.numeric.hex.cs",
    "constant.numeric.binary.cs", "constant.numeric.float.cs", "constant.numeric.integer.cs",
    "keyword.operator.cs", "meta.attribute.cs"]

/-! ## What is known of the grammars -/

theorem endsInLiterals_c : c.EndsInLiterals cLiterals cOthers "constant.character.escape.c" := by
  refine .of_confinesWithin 3 rfl rfl ⟨_, rfl, rfl, rfl⟩ ?_ ?_ ?_ ?_ <;> decide

theorem endsInLiterals_rust :
    rust.EndsInLiterals rustLiterals rustOthers "constant.character.escape.rust" := by
  refine .of_confinesWithin 3 rfl rfl ⟨_, rfl, rfl, rfl⟩ ?_ ?_ ?_ ?_ <;> decide

theorem endsInLiterals_csharp :
    csharp.EndsInLiterals csharpLiterals csharpOthers "constant.character.escape.cs" := by
  refine .of_confinesWithin 3 rfl rfl ⟨_, rfl, rfl, rfl⟩ ?_ ?_ ?_ ?_ <;> decide

theorem ranksLiterals_c :
    RanksLiterals rank cLiterals.scopes cOthers [] "constant.character.escape.c" := by
  refine .of_eq (show (2 : Int) < 3 by decide) ?_ ?_ ?_ ?_ <;> decide

theorem ranksLiterals_rust :
    RanksLiterals rank rustLiterals.scopes rustOthers rustNames
      "constant.character.escape.rust" := by
  refine .of_eq (show (2 : Int) < 3 by decide) ?_ ?_ ?_ ?_ <;> decide

theorem ranksLiterals_csharp :
    RanksLiterals rank csharpLiterals.scopes csharpOthers csharpNames
      "constant.character.escape.cs" := by
  refine .of_eq (show (2 : Int) < 3 by decide) ?_ ?_ ?_ ?_ <;> decide

/-- The literals of a text, for a grammar that ends in literals and any built-in theme. -/
theorem showsLiterals_of_mem_themes {engine : Engine} {g : Grammar} {literals : Pattern}
    {others names : List String} {escape : String} {t : Theme}
    (hg : g.EndsInLiterals literals others escape)
    (hstrategy : ∀ rule ∈ g.enabledRules, rule.strategy.isOk = true)
    (hranks : RanksLiterals rank literals.scopes others names escape)
    (hengine : engine.Suits g literals) (ht : t ∈ themes) (text : String) :
    ShowsLiterals engine g t text literals.scopes names escape := by
  rw [← funext (specificity_resolve ht)] at hranks
  exact showsLiterals hg hstrategy hengine hranks text

/-! ## C -/

/-- **The literals of C.** In every built-in theme an offset in a literal has the style of an
escape, if one covers the offset, and otherwise that of the literal. -/
theorem c_shows_literals {engine : Engine} (hengine : engine.Suits c cLiterals) {t : Theme}
    (ht : t ∈ themes) (text : String) :
    ∃ tokens spans, tokenize engine c text {} = .ok tokens ∧
      highlight engine c t text {} = .ok spans ∧
      ∀ k ∈ tokens, k.scope ∈ ["comment.block.c", "comment.line.double-slash.c",
          "string.quoted.double.c", "string.quoted.single.c"] →
        ∀ offset, k.Covers text.utf8ByteSize offset →
          (IsCovered tokens text.utf8ByteSize offset ["constant.character.escape.c"] →
            IsShownAt spans offset (t.resolve .bestMatch "constant.character.escape.c").style) ∧
          (¬IsCovered tokens text.utf8ByteSize offset ["constant.character.escape.c"] →
            IsShownAt spans offset (t.resolve .bestMatch k.scope).style) := by
  obtain ⟨tokens, spans, htokens, hspans, hshown⟩ :=
    showsLiterals_of_mem_themes endsInLiterals_c (by decide) ranksLiterals_c hengine ht text
  refine ⟨tokens, spans, htokens, hspans, fun k hk hscope offset hc ↦ ?_⟩
  obtain ⟨hescape, -, hliteral⟩ := hshown k hk hscope offset hc
  exact ⟨hescape, hliteral⟩

/-- What the expressions of C match in `"\n" // 1`. -/
def cEngine : Engine := .recorded [
  ("\\b\\d+[uUlL]*\\b", [⟨⟨8, 9, by decide⟩, []⟩]),
  ("[+\\-*/%&|^!<>=~?:]+", [⟨⟨5, 7, by decide⟩, []⟩]),
  (cLiterals.regex.getD "", Match.alternatives 4 [(2, ⟨0, 4, by decide⟩), (1, ⟨5, 9, by decide⟩)]),
  ("\\\\(?:[abfnrtv\\\\'\\x22?]|[0-7]\x7b1,3\x7d|x[0-9a-fA-F]+)", [⟨⟨1, 3, by decide⟩, []⟩])]

/-- The tokens of this text. -/
def cTokens : List Token :=
  [⟨8, 9, "constant.numeric.integer.c", "1"⟩, ⟨5, 7, "keyword.operator.c", "//"⟩,
    ⟨0, 4, "string.quoted.double.c", "\"\\n\""⟩, ⟨1, 3, "constant.character.escape.c", "\\n"⟩,
    ⟨5, 9, "comment.line.double-slash.c", "// 1"⟩]

theorem cEngine_shows_literals :
    cEngine.Suits c cLiterals ∧ darkPlus ∈ themes ∧
    tokenize cEngine c "\"\\n\" // 1" {} = .ok cTokens ∧
    ∃ spans, highlight cEngine c darkPlus "\"\\n\" // 1" {} = .ok spans ∧
      IsShownAt spans 0 (darkPlus.resolve .bestMatch "string.quoted.double.c").style ∧
      IsShownAt spans 1 (darkPlus.resolve .bestMatch "constant.character.escape.c").style ∧
      IsShownAt spans 8 (darkPlus.resolve .bestMatch "comment.line.double-slash.c").style := by
  have hengine : cEngine.Suits c cLiterals := Engine.suits_recorded rfl rfl
  have hc : tokenize cEngine c "\"\\n\" // 1" {} = .ok cTokens :=
    tokenize_eq_ok_of_tokenizeUpTo (n := 6) (by decide +kernel)
  obtain ⟨tokens, spans, htokens, hspans, hshown⟩ :=
    c_shows_literals hengine darkPlus_mem_themes "\"\\n\" // 1"
  obtain rfl : cTokens = tokens := Except.ok.inj (hc.symm.trans htokens)
  have hstring := hshown ⟨0, 4, "string.quoted.double.c", "\"\\n\""⟩ (by simp [cTokens]) (by simp)
  have hcomment := hshown ⟨5, 9, "comment.line.double-slash.c", "// 1"⟩ (by simp [cTokens])
    (by simp)
  exact ⟨hengine, darkPlus_mem_themes, hc, spans, hspans, (hstring 0 (by decide)).2 (by decide),
    (hstring 1 (by decide)).1 (by decide), (hcomment 8 (by decide)).2 (by decide)⟩

/-! ## Rust and C# -/

theorem showsLiterals_rust {engine : Engine} (hengine : engine.Suits rust rustLiterals) {t : Theme}
    (ht : t ∈ themes) (text : String) :
    ShowsLiterals engine rust t text rustLiterals.scopes rustNames
      "constant.character.escape.rust" :=
  showsLiterals_of_mem_themes endsInLiterals_rust (by decide) ranksLiterals_rust hengine ht text

theorem showsLiterals_csharp {engine : Engine} (hengine : engine.Suits csharp csharpLiterals)
    {t : Theme} (ht : t ∈ themes) (text : String) :
    ShowsLiterals engine csharp t text csharpLiterals.scopes csharpNames
      "constant.character.escape.cs" :=
  showsLiterals_of_mem_themes endsInLiterals_csharp (by decide) ranksLiterals_csharp hengine ht text

/-- **The literals of Rust and C#.** In every built-in theme an offset in a literal has the style of
an escape, if one covers the offset, or else that of a name, if one does, and otherwise that of the
literal. -/
theorem rust_csharp_show_literals {engine : Engine} (hrust : engine.Suits rust rustLiterals)
    (hcsharp : engine.Suits csharp csharpLiterals) {t : Theme} (ht : t ∈ themes) (text : String) :
    ShowsLiterals engine rust t text rustLiterals.scopes rustNames
      "constant.character.escape.rust" ∧
    ShowsLiterals engine csharp t text csharpLiterals.scopes csharpNames
      "constant.character.escape.cs" :=
  ⟨showsLiterals_rust hrust ht text, showsLiterals_csharp hcsharp ht text⟩

/-- What the expressions of Rust and C# match in `// Foo`. -/
def fooEngine : Engine := .recorded [
  ("\\b[A-Z][a-zA-Z0-9_]*\\b", [⟨⟨3, 6, by decide⟩, []⟩]),
  ("[+\\-*/%&|^!<>=@]+", [⟨⟨0, 2, by decide⟩, []⟩]),
  ("[+\\-*/%&|^!<>=~?:]+", [⟨⟨0, 2, by decide⟩, []⟩]),
  (rustLiterals.regex.getD "", Match.alternatives 6 [(2, ⟨0, 6, by decide⟩)]),
  (csharpLiterals.regex.getD "", Match.alternatives 6 [(2, ⟨0, 6, by decide⟩)])]

/-- The tokens of this text in Rust. -/
def rustTokens : List Token :=
  [⟨3, 6, "entity.name.type.rust", "Foo"⟩, ⟨0, 2, "keyword.operator.rust", "//"⟩,
    ⟨0, 6, "comment.line.double-slash.rust", "// Foo"⟩]

/-- The tokens of this text in C#. -/
def csharpTokens : List Token :=
  [⟨0, 2, "keyword.operator.cs", "//"⟩, ⟨0, 6, "comment.line.double-slash.cs", "// Foo"⟩]

theorem suits_rust_fooEngine : fooEngine.Suits rust rustLiterals :=
  Engine.suits_recorded rfl rfl

theorem tokenize_rust_fooEngine : tokenize fooEngine rust "// Foo" {} = .ok rustTokens :=
  tokenize_eq_ok_of_tokenizeUpTo (n := 6) (by decide +kernel)

/-- The only name is that of a type. -/
theorem scope_eq_of_mem_rustNames {e : Token} (he : e ∈ rustTokens) (hname : e.scope ∈ rustNames) :
    e.scope = "entity.name.type.rust" := by
  have hall : ∀ e ∈ rustTokens, e.scope ∈ rustNames → e.scope = "entity.name.type.rust" := by
    decide
  exact hall e he hname

theorem fooEngine_shows_literals :
    fooEngine.Suits rust rustLiterals ∧ fooEngine.Suits csharp csharpLiterals ∧
    darkPlus ∈ themes ∧
    (∃ spans, highlight fooEngine rust darkPlus "// Foo" {} = .ok spans ∧
      IsShownAt spans 0 (darkPlus.resolve .bestMatch "comment.line.double-slash.rust").style ∧
      IsShownAt spans 3 (darkPlus.resolve .bestMatch "entity.name.type.rust").style) ∧
    ∃ spans, highlight fooEngine csharp darkPlus "// Foo" {} = .ok spans ∧
      IsShownAt spans 0 (darkPlus.resolve .bestMatch "comment.line.double-slash.cs").style := by
  have hcsharp : fooEngine.Suits csharp csharpLiterals := Engine.suits_recorded rfl rfl
  have htokens : tokenize fooEngine csharp "// Foo" {} = .ok csharpTokens :=
    tokenize_eq_ok_of_tokenizeUpTo (n := 6) (by decide +kernel)
  obtain ⟨⟨tokens, spans, hrun, hspans, hshown⟩, tokens', spans', hrun', hspans', hshown'⟩ :=
    rust_csharp_show_literals suits_rust_fooEngine hcsharp darkPlus_mem_themes "// Foo"
  obtain rfl : rustTokens = tokens := Except.ok.inj (tokenize_rust_fooEngine.symm.trans hrun)
  obtain rfl : csharpTokens = tokens' := Except.ok.inj (htokens.symm.trans hrun')
  have hcomment := hshown ⟨0, 6, "comment.line.double-slash.rust", "// Foo"⟩ (by simp [rustTokens])
    (by decide)
  have hcomment' := hshown' ⟨0, 6, "comment.line.double-slash.cs", "// Foo"⟩
    (by simp [csharpTokens]) (by decide)
  obtain ⟨e, he, hname, -, hfoo⟩ := (hcomment 3 (by decide)).2.1 (by decide) (by decide)
  rw [scope_eq_of_mem_rustNames he hname] at hfoo
  exact ⟨suits_rust_fooEngine, hcsharp, darkPlus_mem_themes,
    ⟨spans, hspans, (hcomment 0 (by decide)).2.2 (by decide), hfoo⟩,
    spans', hspans', (hcomment' 0 (by decide)).2.2 (by decide)⟩

/-- A name in a comment has not the style of the comment. -/
theorem rust_comment_shows_name :
    fooEngine.Suits rust rustLiterals ∧ darkPlus ∈ themes ∧
    ∃ tokens spans k, tokenize fooEngine rust "// Foo" {} = .ok tokens ∧
      highlight fooEngine rust darkPlus "// Foo" {} = .ok spans ∧
      k ∈ tokens ∧ k.scope ∈ rustLiterals.scopes ∧ k.Covers "// Foo".utf8ByteSize 3 ∧
      ¬IsCovered tokens "// Foo".utf8ByteSize 3 ["constant.character.escape.rust"] ∧
      ¬IsShownAt spans 3 (darkPlus.resolve .bestMatch k.scope).style := by
  obtain ⟨tokens, spans, hrun, hspans, hshown⟩ :=
    showsLiterals_rust suits_rust_fooEngine darkPlus_mem_themes "// Foo"
  obtain rfl : rustTokens = tokens := Except.ok.inj (tokenize_rust_fooEngine.symm.trans hrun)
  let k : Token := ⟨0, 6, "comment.line.double-slash.rust", "// Foo"⟩
  have hk : k ∈ rustTokens := by simp [rustTokens, k]
  have hliteral : k.scope ∈ rustLiterals.scopes := by decide
  have hcovers : k.Covers "// Foo".utf8ByteSize 3 := by decide
  have hescape :
      ¬IsCovered rustTokens "// Foo".utf8ByteSize 3 ["constant.character.escape.rust"] := by
    decide
  refine ⟨suits_rust_fooEngine, darkPlus_mem_themes, rustTokens, spans, k, tokenize_rust_fooEngine,
    hspans, hk, hliteral, hcovers, hescape, fun hcomment ↦ ?_⟩
  obtain ⟨e, he, hname, -, ⟨s, hs, hcontains⟩, hfoo⟩ :=
    (hshown k hk hliteral 3 hcovers).2.1 hescape (by decide)
  have heq := (hcomment.2 s hs hcontains).symm.trans (hfoo s hs hcontains)
  rw [scope_eq_of_mem_rustNames he hname, ← segmented_eq darkPlus_mem_themes] at heq
  exact absurd heq (by decide)

/-! ## The order of the literals -/

theorem rust_literals : rust.repository.get? "literals" = some rustLiterals := rfl

theorem c_literals : c.repository.get? "literals" = some cLiterals := rfl

theorem csharp_literals : csharp.repository.get? "literals" = some csharpLiterals := rfl

/-- What is known of the grammars with literals: they end in them, and can be compiled. -/
theorem exists_endsInLiterals {g : Grammar} {literals : Pattern} (hg : g ∈ [rust, c, csharp])
    (hliterals : g.repository.get? "literals" = some literals) :
    (∃ others escape, g.EndsInLiterals literals others escape) ∧
      ∀ rule ∈ g.enabledRules, rule.strategy.isOk = true := by
  simp only [List.mem_cons, List.not_mem_nil, or_false] at hg
  rcases hg with rfl | rfl | rfl
  · obtain rfl := Option.some.inj (rust_literals.symm.trans hliterals)
    exact ⟨⟨_, _, endsInLiterals_rust⟩, by decide⟩
  · obtain rfl := Option.some.inj (c_literals.symm.trans hliterals)
    exact ⟨⟨_, _, endsInLiterals_c⟩, by decide⟩
  · obtain rfl := Option.some.inj (csharp_literals.symm.trans hliterals)
    exact ⟨⟨_, _, endsInLiterals_csharp⟩, by decide⟩

/-- **Literals come in order** in the tokens of Rust, C and C#, and no two of them have text in
common. They are the tokens with the scopes of the rule for literals. -/
theorem builtin_literals_in_order {engine : Engine} {g : Grammar} {literals : Pattern}
    (hg : g ∈ [rust, c, csharp]) (hliterals : g.repository.get? "literals" = some literals)
    (hengine : engine.Suits g literals) (text : String) (options : TokenizeOptions) :
    ∃ tokens, tokenize engine g text options = .ok tokens ∧
      (tokens.filter (·.scope ∈ literals.scopes)).Pairwise fun t t' ↦
        t.start < t'.start ∧ t.stop ≤ t'.start := by
  obtain ⟨⟨others, escape, hends⟩, hstrategy⟩ := exists_endsInLiterals hg hliterals
  obtain ⟨table, hcompile⟩ := RuleTable.exists_compile_eq_ok hstrategy hengine.compiles
  obtain ⟨tokens, htokens, -⟩ := exists_tokenize_eq_ok hcompile text options
  exact ⟨tokens, htokens, pairwise_tokenize hends hengine hcompile htokens⟩

/-- What the expressions of Rust match in `"//"//"x"`. -/
def quotesEngine : Engine := .recorded [
  ("[+\\-*/%&|^!<>=@]+", [⟨⟨1, 3, by decide⟩, []⟩, ⟨⟨4, 6, by decide⟩, []⟩]),
  (rustLiterals.regex.getD "",
    Match.alternatives 6 [(4, ⟨0, 4, by decide⟩), (2, ⟨4, 9, by decide⟩)])]

/-- The tokens of this text. -/
def quotesTokens : List Token :=
  [⟨1, 3, "keyword.operator.rust", "//"⟩, ⟨4, 6, "keyword.operator.rust", "//"⟩,
    ⟨0, 4, "string.quoted.double.rust", "\"//\""⟩,
    ⟨4, 9, "comment.line.double-slash.rust", "//\"x\""⟩]

theorem rust_literals_in_order :
    rust ∈ [rust, c, csharp] ∧ rust.repository.get? "literals" = some rustLiterals ∧
    quotesEngine.Suits rust rustLiterals ∧
    tokenize quotesEngine rust "\"//\"//\"x\"" {} = .ok quotesTokens ∧
    (quotesTokens.filter (·.scope ∈ rustLiterals.scopes)).Pairwise fun t t' ↦
      t.start < t'.start ∧ t.stop ≤ t'.start := by
  have hmem : rust ∈ [rust, c, csharp] := List.mem_cons_self
  have hengine : quotesEngine.Suits rust rustLiterals := Engine.suits_recorded rfl rfl
  have hquotes : tokenize quotesEngine rust "\"//\"//\"x\"" {} = .ok quotesTokens :=
    tokenize_eq_ok_of_tokenizeUpTo (n := 6) (by decide +kernel)
  obtain ⟨tokens, htokens, hpairwise⟩ :=
    builtin_literals_in_order hmem rust_literals hengine "\"//\"//\"x\"" {}
  obtain rfl : quotesTokens = tokens := Except.ok.inj (hquotes.symm.trans htokens)
  exact ⟨hmem, rust_literals, hengine, hquotes, hpairwise⟩

end Highlighter.Builtin
