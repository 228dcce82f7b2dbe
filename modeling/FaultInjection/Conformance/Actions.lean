import FaultInjection.Action

namespace FaultInjection.Conformance

structure Dispatch where
  target : String
  rule : String
  flags : List (String × String)

abbrev Recording := List Dispatch

def record : Executor Recording := fun call r recording =>
  ⟨call, .ok (.ok ()), recording ++ [⟨call.target, r.identifier, call.flags.entries⟩]⟩

variable {σ : Type}

def returning : Executor σ := Executor.ofEnding fun call _ =>
  .ok (.error (.interrupted (.returning (((call.flags.get? "value").map Value.str).getD .null))))

def throwing : Executor σ := Executor.ofEnding fun call _ =>
  .ok (.error (.interrupted (.throwing ((call.flags.get? "message").getD "injected fault"))))

def unsupported : Executor σ := Executor.ofEnding fun _ r =>
  .ok (.error (.unsupported r.action "return type not supported by test executor"))

def failing : Executor σ := Executor.ofEnding fun _ _ =>
  .ok (.error (.failed "test executor failure"))

def crashing : Executor σ := Executor.ofEnding fun _ _ =>
  .error ⟨some "test executor panic"⟩

def actionTable : ActionTable Recording :=
  ActionTable.empty
    |>.withAction "delay" record
    |>.withAction "record" record
    |>.withAction "return" returning
    |>.withAction "throw" throwing
    |>.withAction "unsupported" unsupported
    |>.withAction "fail" failing
    |>.withAction "panic" crashing

end FaultInjection.Conformance
