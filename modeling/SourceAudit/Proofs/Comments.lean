import SourceAudit.Proofs.Conditional
/-!
# Comments in the lowering

A parser that keeps comments gives each one a node of kind `comment` where it stands. The
lowering passes over such a node at each of its scopes: as an item of a file, of a record body
or of a function body it lowers to nothing, so it may be dropped from the list it stands in.
Names are another matter: a name is read as the text between its node's ends, so a comment
written inside a qualified name (`A::/*c*/f`) stays part of the name.

* `lowerTop_comment`, `lowerMember_comment`, `lowerInto_comment`: a comment lowers to nothing
  at file scope, in a record body and in a function body.
* **`comment_transparent`**: a comment among the items of any scope may be dropped.
* `Outline.ofTree_drop_comment`: dropping a comment from a file's items leaves its outline as
  it is.
-/

namespace SourceAudit

namespace OfTree

open Syntax Tree

variable {c : Tree}

/-- At file scope a comment lowers to nothing. -/
theorem lowerTop_comment (hc : c.kind = "comment") : ∀ n, lowerTop n c = pure []
  | 0 => rfl
  | n + 1 => by simp [lowerTop.eq_2, hc, isPreprocContainer]

/-- In a record body a comment leaves the record as it is. -/
theorem lowerMember_comment (hc : c.kind = "comment") : ∀ n q r, lowerMember n c q r = pure r
  | 0, _, _ => rfl
  | n + 1, q, r => by
    simp [lowerMember.eq_2, hc, isPreprocContainer, isRecordDefinition, isRecordSpecifier]

/-- In a function body a comment lowers to nothing. -/
theorem lowerInto_comment (hc : c.kind = "comment") : ∀ n, lowerInto n c = pure []
  | 0 => rfl
  | n + 1 => by
    -- the kind is on the list of leaves the last arm skips; only the context is read
    simp [lowerInto.eq_2, hc, isRecordDefinition, isRecordSpecifier]
    rfl

/-- **A comment among the items of a scope may be dropped**: the items of a file lower to the
same declarations, the members of a record body give the same record, and the statements of a
function body lower to the same nodes. -/
theorem comment_transparent (hc : c.kind = "comment") (n : Nat) (pre post : List Tree) :
    List.flatten <$> (pre ++ c :: post).mapM (lowerTop n) =
        List.flatten <$> (pre ++ post).mapM (lowerTop n) ∧
      (∀ q r, (pre ++ c :: post).foldlM (fun r m => lowerMember n m q r) r =
        (pre ++ post).foldlM (fun r m => lowerMember n m q r) r) ∧
      List.flatten <$> (pre ++ c :: post).mapM (lowerInto n) =
        List.flatten <$> (pre ++ post).mapM (lowerInto n) := by
  -- a comment is a group with no items, at each scope
  have hw₁ : lowerTop n c = List.flatten <$> ([] : List Tree).mapM (lowerTop n) := by
    simp [lowerTop_comment hc n]
  have hw₂ : lowerInto n c = List.flatten <$> ([] : List Tree).mapM (lowerInto n) := by
    simp [lowerInto_comment hc n]
  have hw₃ : ∀ q r, lowerMember n c q r = ([] : List Tree).foldlM (fun r m => lowerMember n m q r) r :=
    fun q r => by simp [lowerMember_comment hc n q r]
  have htop := flatten_mapM_splice hw₁ pre post
  have hinto := flatten_mapM_splice hw₂ pre post
  have hmember : ∀ q r, (pre ++ c :: post).foldlM (fun r m => lowerMember n m q r) r =
      (pre ++ [] ++ post).foldlM (fun r m => lowerMember n m q r) r := fun q r =>
    foldlM_splice (fun b => hw₃ q b) pre post r
  simp only [List.append_nil] at htop hinto hmember
  exact ⟨htop, hmember, hinto⟩

/-- A comment between two declarations, in every scope. -/
theorem comment_between_declarations :
    let p : Point := ⟨0, 0, 0⟩
    let c := Syntax.Tree.node "comment" true none p 0 false []
    let decl := Syntax.Tree.node "declaration" true none p 0 false []
    List.flatten <$> [decl, c, decl].mapM (lowerTop 20) =
        List.flatten <$> [decl, decl].mapM (lowerTop 20) ∧
      (∀ q r, [decl, c, decl].foldlM (fun r m => lowerMember 20 m q r) r =
        [decl, decl].foldlM (fun r m => lowerMember 20 m q r) r) ∧
      List.flatten <$> [decl, c, decl].mapM (lowerInto 20) =
        List.flatten <$> [decl, decl].mapM (lowerInto 20) := by
  intro p c decl
  exact comment_transparent rfl 20 [decl] [decl]

end OfTree

namespace Outline

open OfTree Syntax Tree

/-- **Dropping a comment from the items of a file** leaves its outline as it is, as long as
the two trees have the same field declarations and the same error flag. -/
theorem ofTree_drop_comment (path : String) (src : ByteArray) (dialect : Dialect)
    {root root' c : Tree} {pre post : List Tree} (hc : c.kind = "comment")
    (h : root.namedChildren = pre ++ c :: post) (h' : root'.namedChildren = pre ++ post)
    (hfields : root'.nodes.filter (·.kind == "field_declaration") =
      root.nodes.filter (·.kind == "field_declaration"))
    (herr : root'.hasError = root.hasError) :
    ofTree path src dialect root' = ofTree path src dialect root := by
  refine ofTree_congr path src dialect hfields herr (4 * root.size + 4 * root'.size + 16)
    (by omega) (by omega) ?_
  rw [h, h']
  have hw : lowerTop (4 * root.size + 4 * root'.size + 16) c =
      List.flatten <$> ([] : List Tree).mapM (lowerTop (4 * root.size + 4 * root'.size + 16)) := by
    simp [lowerTop_comment hc]
  simpa using (flatten_mapM_splice hw pre post).symm

end Outline

end SourceAudit
