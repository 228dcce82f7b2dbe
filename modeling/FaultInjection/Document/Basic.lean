namespace FaultInjection

inductive Document
  | word (text : String)
  | quoted (text : String)
  | array (items : List Document)
  | object (members : List (String × Document))
  deriving Inhabited

end FaultInjection
