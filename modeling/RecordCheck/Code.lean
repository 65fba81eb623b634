/-!
# Error codes

The codes that the built-in rules report.
-/
set_option autoImplicit false

namespace RecordCheck.Code

def formatError : String := "FORMAT_ERROR"

def required : String := "REQUIRED"

def cannotBeEmpty : String := "CANNOT_BE_EMPTY"

def notAllowedValue : String := "NOT_ALLOWED_VALUE"

def tooHigh : String := "TOO_HIGH"

def tooLow : String := "TOO_LOW"

def notInteger : String := "NOT_INTEGER"

def notPositiveInteger : String := "NOT_POSITIVE_INTEGER"

def notDecimal : String := "NOT_DECIMAL"

def notPositiveDecimal : String := "NOT_POSITIVE_DECIMAL"

def fieldsNotEqual : String := "FIELDS_NOT_EQUAL"

def tooLong : String := "TOO_LONG"

def tooShort : String := "TOO_SHORT"

def wrongFormat : String := "WRONG_FORMAT"

def wrongUrl : String := "WRONG_URL"

def wrongEmail : String := "WRONG_EMAIL"

def wrongDate : String := "WRONG_DATE"

def wrongTimezone : String := "WRONG_TIMEZONE"

end RecordCheck.Code
