import DocStore.Backend.Postgres

/-!
# Calls in the conversation

Each call on a row sends one statement and consumes one reply, whatever the reply is, and its answer
is read off that reply alone.
-/

namespace DocStore

namespace Reply

/-- The number of rows that a reply reports as affected; none where no reply is left. -/
def affectedRows : Option Reply → Except BackendError Nat
  | some (.affected count) => .ok count
  | some (.failure text) => .error (.database (.reported text))
  | _ => .ok 0

/-- The rows in a reply; none where no reply is left. -/
def storedRows : Option Reply → Except BackendError (List StoredRow)
  | some (.rows entries) => entries.mapM Conversation.storedRow
  | some (.failure text) => .error (.database (.reported text))
  | _ => .ok []

end Reply

namespace Conversation

/-- The conversation after some calls, each of which consumed a reply. -/
def after (conversation : Conversation) (calls : List Sql.Call) : Conversation :=
  ⟨conversation.sent ++ calls, conversation.replies.drop calls.length⟩

theorem after_nil (conversation : Conversation) : conversation.after [] = conversation := by
  rw [after, List.append_nil]
  rfl

theorem after_after (conversation : Conversation) (first rest : List Sql.Call) :
    (conversation.after first).after rest = conversation.after (first ++ rest) := by
  simp only [after, List.append_assoc, List.drop_drop, List.length_append]

theorem replies_after_single (conversation : Conversation) (call : Sql.Call) :
    (conversation.after [call]).replies = conversation.replies.tail := List.drop_one

theorem send_eq (call : Sql.Call) (conversation : Conversation) :
    conversation.send call = (conversation.replies.head?, conversation.after [call]) := by
  rw [send, after, List.length_singleton, List.drop_one]

theorem execute_eq (call : Sql.Call) (conversation : Conversation) :
    execute call conversation =
      (Reply.affectedRows conversation.replies.head?, conversation.after [call]) := by
  rw [execute, send_eq]
  rcases conversation.replies.head? with _ | reply
  · rfl
  · cases reply <;> rfl

theorem fetchRows_eq (call : Sql.Call) (conversation : Conversation) :
    fetchRows call conversation =
      (Reply.storedRows conversation.replies.head?, conversation.after [call]) := by
  rw [fetchRows, send_eq]
  rcases conversation.replies.head? with _ | reply
  · rfl
  · cases reply <;> rfl

theorem executeOne_eq (call : Sql.Call) (conversation : Conversation) :
    executeOne call conversation =
      ((Reply.affectedRows conversation.replies.head?).map (· == 1),
        conversation.after [call]) := by
  rw [executeOne, execute_eq]

end Conversation

end DocStore
