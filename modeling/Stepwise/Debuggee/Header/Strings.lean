import Stepwise.Debuggee.Header.Core

/-!
# The string header

The header with the string helpers that programs of the course use.
-/

namespace Stepwise.Header

/-- The contents of `strlib.h`. -/
def strings : Text :=
  ofLines [
   "// CppStep course string helpers.",
   "#pragma once",
   "",
   "#include \"collections.h\"",
   "",
   "#include <cctype>",
   "",
   "inline string integerToString(int n, int radix = 10) \x7b",
   "  if (radix == 10)",
   "    return to_string(n);",
   "  if (radix < 2 || radix > 36)",
   "    error(\"integerToString: invalid radix\");",
   "  if (n == 0)",
   "    return \"0\";",
   "  bool negative = n < 0;",
   "  unsigned long value = negative ? -(long)n : n;",
   "  string digits;",
   "  while (value > 0) \x7b",
   "    digits += \"0123456789abcdefghijklmnopqrstuvwxyz\"[value % radix];",
   "    value /= radix;",
   "  \x7d",
   "  if (negative)",
   "    digits += '-';",
   "  std::reverse(digits.begin(), digits.end());",
   "  return digits;",
   "\x7d",
   "",
   "inline string realToString(double d) \x7b",
   "  stringstream ss;",
   "  ss << d;",
   "  return ss.str();",
   "\x7d",
   "",
   "inline string boolToString(bool b) \x7b return b ? \"true\" : \"false\"; \x7d",
   "",
   "inline string charToString(char c) \x7b return string(1, c); \x7d",
   "",
   "inline bool stringIsInteger(const string &str, int radix = 10) \x7b",
   "  if (str.empty())",
   "    return false;",
   "  char *end = nullptr;",
   "  strtol(str.c_str(), &end, radix);",
   "  return end != nullptr && *end == '\\0';",
   "\x7d",
   "",
   "inline int stringToInteger(const string &str, int radix = 10) \x7b",
   "  if (!stringIsInteger(str, radix))",
   "    error(\"stringToInteger: illegal integer format (\" + str + \")\");",
   "  return (int)strtol(str.c_str(), nullptr, radix);",
   "\x7d",
   "",
   "inline bool stringIsReal(const string &str) \x7b",
   "  if (str.empty())",
   "    return false;",
   "  char *end = nullptr;",
   "  strtod(str.c_str(), &end);",
   "  return end != nullptr && *end == '\\0';",
   "\x7d",
   "",
   "inline double stringToReal(const string &str) \x7b",
   "  if (!stringIsReal(str))",
   "    error(\"stringToReal: illegal floating-point format (\" + str + \")\");",
   "  return strtod(str.c_str(), nullptr);",
   "\x7d",
   "",
   "inline string toLowerCase(const string &str) \x7b",
   "  string out = str;",
   "  for (char &c : out)",
   "    c = (char)tolower((unsigned char)c);",
   "  return out;",
   "\x7d",
   "",
   "inline string toUpperCase(const string &str) \x7b",
   "  string out = str;",
   "  for (char &c : out)",
   "    c = (char)toupper((unsigned char)c);",
   "  return out;",
   "\x7d",
   "",
   "inline bool equalsIgnoreCase(const string &a, const string &b) \x7b",
   "  return toLowerCase(a) == toLowerCase(b);",
   "\x7d",
   "",
   "inline string trimStart(const string &str) \x7b",
   "  size_t start = 0;",
   "  while (start < str.size() && isspace((unsigned char)str[start]))",
   "    start++;",
   "  return str.substr(start);",
   "\x7d",
   "",
   "inline string trimEnd(const string &str) \x7b",
   "  size_t end = str.size();",
   "  while (end > 0 && isspace((unsigned char)str[end - 1]))",
   "    end--;",
   "  return str.substr(0, end);",
   "\x7d",
   "",
   "inline string trim(const string &str) \x7b return trimEnd(trimStart(str)); \x7d",
   "",
   "inline bool startsWith(const string &str, const string &prefix) \x7b",
   "  return str.size() >= prefix.size() &&",
   "         str.compare(0, prefix.size(), prefix) == 0;",
   "\x7d",
   "",
   "inline bool endsWith(const string &str, const string &suffix) \x7b",
   "  return str.size() >= suffix.size() &&",
   "         str.compare(str.size() - suffix.size(), suffix.size(), suffix) == 0;",
   "\x7d",
   "",
   "inline bool stringContains(const string &s, const string &substring) \x7b",
   "  return s.find(substring) != string::npos;",
   "\x7d",
   "",
   "inline int stringIndexOf(const string &s, const string &substring,",
   "                         int startIndex = 0) \x7b",
   "  size_t index = s.find(substring, startIndex);",
   "  return index == string::npos ? -1 : (int)index;",
   "\x7d",
   "",
   "inline string stringReplace(const string &str, const string &old,",
   "                            const string &replacement, int limit = -1) \x7b",
   "  if (old.empty())",
   "    return str;",
   "  string out;",
   "  size_t start = 0;",
   "  int count = 0;",
   "  while (limit < 0 || count < limit) \x7b",
   "    size_t index = str.find(old, start);",
   "    if (index == string::npos)",
   "      break;",
   "    out += str.substr(start, index - start) + replacement;",
   "    start = index + old.size();",
   "    count++;",
   "  \x7d",
   "  return out + str.substr(start);",
   "\x7d",
   "",
   "inline Vector<string> stringSplit(const string &str, const string &delimiter,",
   "                                  int limit = -1) \x7b",
   "  Vector<string> parts;",
   "  if (delimiter.empty()) \x7b",
   "    parts.add(str);",
   "    return parts;",
   "  \x7d",
   "  size_t start = 0;",
   "  while (limit < 0 || parts.size() < limit - 1) \x7b",
   "    size_t index = str.find(delimiter, start);",
   "    if (index == string::npos)",
   "      break;",
   "    parts.add(str.substr(start, index - start));",
   "    start = index + delimiter.size();",
   "  \x7d",
   "  parts.add(str.substr(start));",
   "  return parts;",
   "\x7d",
   "",
   "inline string stringJoin(const Vector<string> &parts,",
   "                         const string &delimiter = \"\") \x7b",
   "  string out;",
   "  for (int i = 0; i < parts.size(); i++) \x7b",
   "    if (i > 0)",
   "      out += delimiter;",
   "    out += parts[i];",
   "  \x7d",
   "  return out;",
   "\x7d"]

end Stepwise.Header
