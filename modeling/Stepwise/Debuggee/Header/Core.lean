import Stepwise.Text.Basic

/-!
# The core header

The headers that are compiled with a program are written down line by line.  The core header, which
all others include, tracks variables, frames and allocations, renders values, prints dumps and
announces steps.
-/

namespace Stepwise.Header

/-- The text of finished lines. -/
def ofLines (lines : List String) : Text := lines.flatMap fun line => line.toList ++ ['\n']

/-- The contents of `debug_core.h`. -/
def debugCore : Text :=
  ofLines [
   "// CppStep runtime support: variable tracking, heap registry, step hooks.",
   "#pragma once",
   "",
   "#include <algorithm>",
   "#include <cstdint>",
   "#include <cstdio>",
   "#include <cstdlib>",
   "#include <iostream>",
   "#include <map>",
   "#include <sstream>",
   "#include <string>",
   "#include <type_traits>",
   "#include <vector>",
   "",
   "using namespace std;",
   "",
   "#ifndef CPPSTEP_HEAP_DEPTH",
   "#define CPPSTEP_HEAP_DEPTH 50",
   "#endif",
   "",
   "// ------------------------------------------------------------",
   "// Type traits",
   "// ------------------------------------------------------------",
   "",
   "template <typename T, typename = void>",
   "struct _debug_streamable : std::false_type \x7b\x7d;",
   "",
   "template <typename T>",
   "struct _debug_streamable<T, std::void_t<decltype(std::declval<std::ostream &>()",
   "                                                 << std::declval<const T &>())>>",
   "    : std::true_type \x7b\x7d;",
   "",
   "template <typename T, typename = void>",
   "struct _debug_has_debug_string : std::false_type \x7b\x7d;",
   "",
   "template <typename T>",
   "struct _debug_has_debug_string<",
   "    T, std::void_t<decltype(std::declval<const T &>().toDebugString())>>",
   "    : std::true_type \x7b\x7d;",
   "",
   "// Compile-time type name, e.g. \"Vector<int>\" or \"Node *\".",
   "template <typename T> string _debug_type_name() \x7b",
   "  string pretty = __PRETTY_FUNCTION__;",
   "  size_t start = pretty.find(\"T = \");",
   "  if (start == string::npos)",
   "    return \"unknown\";",
   "  start += 4;",
   "  size_t end = pretty.find_first_of(\";]\", start);",
   "  return pretty.substr(start, end == string::npos ? string::npos : end - start);",
   "\x7d",
   "",
   "#ifndef STANFORD_ERROR_DEFINED",
   "#define STANFORD_ERROR_DEFINED",
   "inline void error(const string &msg) \x7b",
   "  cout << \"[!ERROR] \" << msg << endl;",
   "  exit(1);",
   "\x7d",
   "#endif",
   "",
   "// ------------------------------------------------------------",
   "// Rendering",
   "// ------------------------------------------------------------",
   "",
   "inline string _debug_addr(const void *p) \x7b",
   "  if (p == nullptr)",
   "    return \"0\";",
   "  char buf[2 + 2 * sizeof(uintptr_t) + 1];",
   "  snprintf(buf, sizeof(buf), \"0x%lx\", (unsigned long)(uintptr_t)p);",
   "  return buf;",
   "\x7d",
   "",
   "inline string _debug_json_escape(const string &text) \x7b",
   "  string out;",
   "  out.reserve(text.size());",
   "  for (char c : text) \x7b",
   "    switch (c) \x7b",
   "    case '\"':",
   "      out += \"\\\\\\\"\";",
   "      break;",
   "    case '\\\\':",
   "      out += \"\\\\\\\\\";",
   "      break;",
   "    case '\\n':",
   "      out += \"\\\\n\";",
   "      break;",
   "    case '\\t':",
   "      out += \"\\\\t\";",
   "      break;",
   "    case '\\r':",
   "      out += \"\\\\r\";",
   "      break;",
   "    default:",
   "      out += c;",
   "    \x7d",
   "  \x7d",
   "  return out;",
   "\x7d",
   "",
   "// Keeps one record on one line; the last field may not contain '|'.",
   "inline string _debug_wire(const string &text, bool last_field = false) \x7b",
   "  string out;",
   "  for (char c : text) \x7b",
   "    if (c == '\\n')",
   "      out += \"\\\\n\";",
   "    else if (c == '\\\\')",
   "      out += \"\\\\\\\\\";",
   "    else if (c == '\\r')",
   "      continue;",
   "    else if (c == '|' && last_field)",
   "      out += \"\\\\u007c\";",
   "    else",
   "      out += c;",
   "  \x7d",
   "  return out;",
   "\x7d",
   "",
   "template <typename T> string _debug_to_string(const T &value) \x7b",
   "  if constexpr (_debug_has_debug_string<T>::value) \x7b",
   "    return value.toDebugString();",
   "  \x7d else if constexpr (std::is_same_v<T, bool>) \x7b",
   "    return value ? \"true\" : \"false\";",
   "  \x7d else if constexpr (std::is_same_v<T, char>) \x7b",
   "    return string(1, value);",
   "  \x7d else if constexpr (std::is_pointer_v<T> &&",
   "                       !std::is_same_v<std::decay_t<T>, const char *>) \x7b",
   "    return value == nullptr ? \"nullptr\" : _debug_addr((const void *)value);",
   "  \x7d else if constexpr (_debug_streamable<T>::value) \x7b",
   "    stringstream ss;",
   "    ss << value;",
   "    return ss.str();",
   "  \x7d else \x7b",
   "    return \"\x7b...\x7d\";",
   "  \x7d",
   "\x7d",
   "",
   "// Writes one value of a generated struct printer as a JSON string.",
   "template <typename T> void _debug_field(ostream &os, const T &value) \x7b",
   "  os << '\"' << _debug_json_escape(_debug_to_string(value)) << '\"';",
   "\x7d",
   "",
   "// Element renderer for the collections' toDebugString().",
   "template <typename T> string _debug_json_value(const T &value) \x7b",
   "  if constexpr (_debug_has_debug_string<T>::value) \x7b",
   "    return value.toDebugString();",
   "  \x7d else if constexpr (std::is_arithmetic_v<T> && !std::is_same_v<T, bool> &&",
   "                       !std::is_same_v<T, char>) \x7b",
   "    return _debug_to_string(value);",
   "  \x7d else \x7b",
   "    return \"\\\"\" + _debug_json_escape(_debug_to_string(value)) + \"\\\"\";",
   "  \x7d",
   "\x7d",
   "",
   "// ------------------------------------------------------------",
   "// Heap registry",
   "// ------------------------------------------------------------",
   "",
   "struct _DebugHeapInfo \x7b",
   "  size_t size;",
   "  string type;",
   "  string value;",
   "  bool is_array;",
   "\x7d;",
   "",
   "struct _DebugVar;",
   "",
   "// Everything one program run registers: live allocations, traced variables",
   "// and the call stack. A run owns its module instance, so one per program.",
   "struct _DebugSession \x7b",
   "  map<void *, _DebugHeapInfo> heap;",
   "  vector<_DebugVar *> vars;",
   "  vector<string> call_stack;",
   "  // set while the shim itself allocates or renders",
   "  bool in_hook = false;",
   "  int depth = 0;",
   "\x7d;",
   "",
   "inline _DebugSession _debug_session;",
   "",
   "inline void _debug_register_allocation(void *p, size_t size, bool is_array) \x7b",
   "  if (p == nullptr)",
   "    return;",
   "  stringstream ss;",
   "  ss << \"Allocated (\" << size << \" bytes)\";",
   "  _debug_session.heap[p] = _DebugHeapInfo\x7bsize, \"raw\", ss.str(), is_array\x7d;",
   "\x7d",
   "",
   "inline void _debug_unregister_allocation(void *p) \x7b",
   "  if (p != nullptr)",
   "    _debug_session.heap.erase(p);",
   "\x7d",
   "",
   "// Retypes and re-renders a registered allocation. Rendering a node renders",
   "// its pointer members, so the depth bound stops cyclic structures.",
   "template <typename T>",
   "void _debug_update_heap_info(T *ptr, const char *type_name) \x7b",
   "  if (ptr == nullptr || _debug_session.depth > CPPSTEP_HEAP_DEPTH)",
   "    return;",
   "  _debug_session.depth++;",
   "  bool old_hook = _debug_session.in_hook;",
   "  _debug_session.in_hook = true;",
   "",
   "  auto it = _debug_session.heap.find((void *)ptr);",
   "  if (it != _debug_session.heap.end()) \x7b",
   "    it->second.type = type_name;",
   "    if constexpr (_debug_streamable<T>::value ||",
   "                  _debug_has_debug_string<T>::value) \x7b",
   "      string rendered = _debug_to_string(*ptr);",
   "      // the iterator may be stale after rendering nested nodes",
   "      auto again = _debug_session.heap.find((void *)ptr);",
   "      if (again != _debug_session.heap.end())",
   "        again->second.value = rendered;",
   "    \x7d",
   "  \x7d",
   "",
   "  _debug_session.in_hook = old_hook;",
   "  _debug_session.depth--;",
   "\x7d",
   "",
   "void *operator new(size_t size) \x7b",
   "  void *p = malloc(size == 0 ? 1 : size);",
   "  if (!_debug_session.in_hook) \x7b",
   "    _debug_session.in_hook = true;",
   "    _debug_register_allocation(p, size, false);",
   "    _debug_session.in_hook = false;",
   "  \x7d",
   "  return p;",
   "\x7d",
   "",
   "void *operator new[](size_t size) \x7b",
   "  void *p = malloc(size == 0 ? 1 : size);",
   "  if (!_debug_session.in_hook) \x7b",
   "    _debug_session.in_hook = true;",
   "    _debug_register_allocation(p, size, true);",
   "    _debug_session.in_hook = false;",
   "  \x7d",
   "  return p;",
   "\x7d",
   "",
   "void operator delete(void *p) noexcept \x7b",
   "  if (!_debug_session.in_hook) \x7b",
   "    _debug_session.in_hook = true;",
   "    _debug_unregister_allocation(p);",
   "    _debug_session.in_hook = false;",
   "  \x7d",
   "  free(p);",
   "\x7d",
   "",
   "void operator delete[](void *p) noexcept \x7b",
   "  if (!_debug_session.in_hook) \x7b",
   "    _debug_session.in_hook = true;",
   "    _debug_unregister_allocation(p);",
   "    _debug_session.in_hook = false;",
   "  \x7d",
   "  free(p);",
   "\x7d",
   "",
   "void operator delete(void *p, size_t) noexcept \x7b operator delete(p); \x7d",
   "void operator delete[](void *p, size_t) noexcept \x7b operator delete[](p); \x7d",
   "",
   "// ------------------------------------------------------------",
   "// Variable and function tracking",
   "// ------------------------------------------------------------",
   "",
   "struct _DebugVar \x7b",
   "  string name;",
   "  string type;",
   "  string frame;",
   "  virtual string address() const = 0;",
   "  virtual string value() const = 0;",
   "  virtual string target() const \x7b return \"0\"; \x7d",
   "  virtual string pointee_value() const \x7b return \"\"; \x7d",
   "  virtual ~_DebugVar() \x7b\x7d",
   "\x7d;",
   "",
   "inline string _debug_current_frame() \x7b",
   "  return _debug_session.call_stack.empty() ? \"global\" : _debug_session.call_stack.back();",
   "\x7d",
   "",
   "inline void _debug_unregister_var(_DebugVar *var) \x7b",
   "  // usually the most recent one, but destruction order is not always LIFO",
   "  auto it = std::find(_debug_session.vars.rbegin(), _debug_session.vars.rend(), var);",
   "  if (it != _debug_session.vars.rend())",
   "    _debug_session.vars.erase(std::next(it).base());",
   "\x7d",
   "",
   "template <typename T> struct Tracer : _DebugVar \x7b",
   "  const T &ref;",
   "  Tracer(const char *n, const T &r) : ref(r) \x7b",
   "    name = n;",
   "    type = _debug_type_name<T>();",
   "    frame = _debug_current_frame();",
   "    _debug_session.vars.push_back(this);",
   "  \x7d",
   "  Tracer(const Tracer &) = delete;",
   "  Tracer &operator=(const Tracer &) = delete;",
   "  ~Tracer() \x7b _debug_unregister_var(this); \x7d",
   "  string address() const override \x7b return _debug_addr((const void *)&ref); \x7d",
   "  string value() const override \x7b return _debug_to_string(ref); \x7d",
   "\x7d;",
   "",
   "template <typename T> struct Tracer<T *> : _DebugVar \x7b",
   "  T *const &ref;",
   "  Tracer(const char *n, T *const &r) : ref(r) \x7b",
   "    name = n;",
   "    type = _debug_type_name<T *>();",
   "    frame = _debug_current_frame();",
   "    _debug_session.vars.push_back(this);",
   "    if (ref != nullptr)",
   "      _debug_update_heap_info(ref, _debug_type_name<T>().c_str());",
   "  \x7d",
   "  Tracer(const Tracer &) = delete;",
   "  Tracer &operator=(const Tracer &) = delete;",
   "  ~Tracer() \x7b _debug_unregister_var(this); \x7d",
   "  string address() const override \x7b return _debug_addr((const void *)&ref); \x7d",
   "  string value() const override \x7b",
   "    if (ref == nullptr)",
   "      return \"nullptr\";",
   "    _debug_update_heap_info(ref, _debug_type_name<T>().c_str());",
   "    return _debug_addr((const void *)ref);",
   "  \x7d",
   "  string target() const override \x7b return _debug_addr((const void *)ref); \x7d",
   "  string pointee_value() const override \x7b",
   "    if (ref == nullptr)",
   "      return \"\";",
   "    if constexpr (std::is_void_v<T>) \x7b",
   "      return \"\";",
   "    \x7d else \x7b",
   "      return _debug_to_string(*ref);",
   "    \x7d",
   "  \x7d",
   "\x7d;",
   "",
   "template <typename T> Tracer(const char *, const T &) -> Tracer<T>;",
   "",
   "struct FuncTracker \x7b",
   "  string name;",
   "  explicit FuncTracker(const char *n) \x7b",
   "    string base = n;",
   "    int depth = 0;",
   "    for (const auto &frame : _debug_session.call_stack) \x7b",
   "      if (frame == base || frame.rfind(base + \" (\", 0) == 0)",
   "        depth++;",
   "    \x7d",
   "    name = depth > 0 ? base + \" (\" + to_string(depth + 1) + \")\" : base;",
   "    _debug_session.call_stack.push_back(name);",
   "  \x7d",
   "  FuncTracker(const FuncTracker &) = delete;",
   "  FuncTracker &operator=(const FuncTracker &) = delete;",
   "  ~FuncTracker() \x7b",
   "    if (!_debug_session.call_stack.empty())",
   "      _debug_session.call_stack.pop_back();",
   "  \x7d",
   "\x7d;",
   "",
   "// ------------------------------------------------------------",
   "// Dump and step hooks",
   "// ------------------------------------------------------------",
   "",
   "extern \"C\" \x7b",
   "// Provided by the host. Blocks while the debugger is paused.",
   "__attribute__((import_module(\"env\"), import_name(\"_debug_wait\"))) void",
   "_debug_wait(int line);",
   "\x7d",
   "",
   "inline void _debug_dump_vars() \x7b",
   "  bool old_hook = _debug_session.in_hook;",
   "  _debug_session.in_hook = true;",
   "  string out = \"[DEBUG:VARS:START]\\n\";",
   "  for (auto it = _debug_session.vars.rbegin(); it != _debug_session.vars.rend(); ++it) \x7b",
   "    const _DebugVar *var = *it;",
   "    out += var->name + \"|\" + var->type + \"|\" + var->address() + \"|\" +",
   "           _debug_wire(var->value()) + \"|\" + var->target() + \"|\" + var->frame +",
   "           \"|\" + _debug_wire(var->pointee_value(), true) + \"\\n\";",
   "  \x7d",
   "  for (const auto &[addr, info] : _debug_session.heap) \x7b",
   "    string a = _debug_addr(addr);",
   "    out += \"*\" + a + \"|\" + info.type + \"|\" + a + \"|\" + _debug_wire(info.value) +",
   "           \"|0|heap|\\n\";",
   "  \x7d",
   "  out += \"[DEBUG:VARS:END]\\n[DEBUG:STACK:START]\\n\";",
   "  for (const auto &frame : _debug_session.call_stack)",
   "    out += frame + \"\\n\";",
   "  out += \"[DEBUG:STACK:END]\\n\";",
   "  cout << out << flush;",
   "  _debug_session.in_hook = old_hook;",
   "\x7d",
   "",
   "template <typename T>",
   "void _debug_loop_step(int line, const char *name, const T &value) \x7b",
   "  Tracer<T> tracer(name, value);",
   "  _debug_dump_vars();",
   "  _debug_wait(line);",
   "\x7d",
   "",
   "#define DEBUG_STEP(line) (_debug_dump_vars(), _debug_wait(line))",
   "",
   "// ------------------------------------------------------------",
   "// Testing",
   "// ------------------------------------------------------------",
   "",
   "#define EXPECT_EQUAL(actual, expected)                                         \\",
   "  do \x7b                                                                         \\",
   "    auto _debug_a = (actual);                                                  \\",
   "    auto _debug_e = (expected);                                                \\",
   "    if (_debug_a == _debug_e) \x7b                                                \\",
   "      cout << \"[TEST:PASS] \" << #actual << \" == \" << #expected << endl;        \\",
   "    \x7d else \x7b                                                                   \\",
   "      cout << \"[TEST:FAIL] \" << #actual << \" == \" << #expected                 \\",
   "           << \" Expected: \" << _debug_e << \" Actual: \" << _debug_a << endl;    \\",
   "    \x7d                                                                          \\",
   "  \x7d while (0)",
   "",
   "#define EXPECT(condition)                                                      \\",
   "  do \x7b                                                                         \\",
   "    if (condition) \x7b                                                           \\",
   "      cout << \"[TEST:PASS] \" << #condition << endl;                            \\",
   "    \x7d else \x7b                                                                   \\",
   "      cout << \"[TEST:FAIL] \" << #condition << \" Expected: true Actual: false\"  \\",
   "           << endl;                                                            \\",
   "    \x7d                                                                          \\",
   "  \x7d while (0)"]

end Stepwise.Header
