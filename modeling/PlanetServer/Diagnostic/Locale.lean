import PlanetServer.Token.Kind

/-!
# Languages of the messages

The texts that users see, in English and in Korean.
-/

namespace PlanetServer

/-- A language for messages to the user. -/
inductive Locale where
  /-- English. -/
  | en
  /-- Korean. -/
  | ko
deriving DecidableEq, Repr

namespace Locale

/-- A statement has no end. -/
def missingTerminator : Locale → String
  | en => "A statement needs an end. Finish it with a semicolon(;) or a newline(Enter)."
  | ko => "문장 끝이 필요해요. 마지막에 세미콜론(;) 또는 줄바꿈(Enter)으로 문장을 종료하세요."

/-- An assignment stands where none can be. -/
def malformedAssignment : Locale → String
  | en => "This assignment is malformed. e.g. i = i + 1  (end the statement with ; or a newline)"
  | ko => "대입문 형태가 올바르지 않아요. 예) i = i + 1  (문장 끝에는 ; 또는 줄바꿈이 필요합니다)"

/-- Nothing that is allowed starts here. -/
def noViableAlternative : Locale → String
  | en => "The code at this position cannot be parsed. Check the syntax again."
  | ko => "이 위치의 코드를 해석할 수 없어요. 구문을 다시 확인하세요."

/-- One of the named things should stand here. -/
def expectedOneOf (locale : Locale) (names : List String) : String :=
  let list := ", ".intercalate names
  match locale with
  | en => "Expected one of: " ++ list
  | ko => "여기서는 " ++ list ++ " 가(이) 올 수 있어요."

/-- The code near the given text is not understood. -/
def unknownSyntaxError (locale : Locale) (near : String) : String :=
  match locale with
  | en => "Unknown syntax error: could not understand the code near " ++ near ++ "."
  | ko => "알 수 없는 구문 오류: " ++ near ++ " 부근에서 문법을 이해하지 못했어요."

/-- The name of a kind for users. -/
def friendlyName : Locale → Kind → String
  | en, .semicolon => "semicolon(;)"
  | ko, .semicolon => "세미콜론(;)"
  | en, .newline => "newline(Enter)"
  | ko, .newline => "줄바꿈(Enter)"
  | _, k => k.displayName

end Locale

end PlanetServer
