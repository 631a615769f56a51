import Stepwise.Debuggee.Header.Core

/-!
# The collections header

The header with the containers that programs of the course use.
-/

namespace Stepwise.Header

/-- The contents of `collections.h`. -/
def collections : Text :=
  ofLines [
   "// CppStep course collections. Each one renders itself with toString() for",
   "// output and toDebugString() (JSON) for the variable view.",
   "#pragma once",
   "",
   "#include \"debug_core.h\"",
   "",
   "#include <deque>",
   "#include <functional>",
   "#include <initializer_list>",
   "#include <set>",
   "#include <unordered_map>",
   "#include <unordered_set>",
   "",
   "template <typename It>",
   "string _debug_join(It begin, It end, const function<string(It)> &render) \x7b",
   "  string out;",
   "  for (It it = begin; it != end; ++it) \x7b",
   "    if (it != begin)",
   "      out += \", \";",
   "    out += render(it);",
   "  \x7d",
   "  return out;",
   "\x7d",
   "",
   "// ------------------------------------------------------------",
   "// Vector",
   "// ------------------------------------------------------------",
   "",
   "template <typename T> class Vector \x7b",
   "  vector<T> _v;",
   "",
   "  void _check(int i, const char *op) const \x7b",
   "    if (i < 0 || i >= (int)_v.size())",
   "      error(string(\"Vector::\") + op + \": index \" + to_string(i) +",
   "            \" out of range\");",
   "  \x7d",
   "",
   "public:",
   "  Vector() \x7b\x7d",
   "  Vector(int n, const T &value = T()) : _v(n, value) \x7b\x7d",
   "  Vector(std::initializer_list<T> list) : _v(list) \x7b\x7d",
   "",
   "  int size() const \x7b return (int)_v.size(); \x7d",
   "  bool isEmpty() const \x7b return _v.empty(); \x7d",
   "  void clear() \x7b _v.clear(); \x7d",
   "  void add(const T &value) \x7b _v.push_back(value); \x7d",
   "  void push_back(const T &value) \x7b _v.push_back(value); \x7d",
   "  void insert(int i, const T &value) \x7b",
   "    if (i < 0 || i > (int)_v.size())",
   "      error(\"Vector::insert: index out of range\");",
   "    _v.insert(_v.begin() + i, value);",
   "  \x7d",
   "  T remove(int i) \x7b",
   "    _check(i, \"remove\");",
   "    T value = _v[i];",
   "    _v.erase(_v.begin() + i);",
   "    return value;",
   "  \x7d",
   "  const T &get(int i) const \x7b",
   "    _check(i, \"get\");",
   "    return _v[i];",
   "  \x7d",
   "  void set(int i, const T &value) \x7b",
   "    _check(i, \"set\");",
   "    _v[i] = value;",
   "  \x7d",
   "  T &operator[](int i) \x7b",
   "    _check(i, \"operator[]\");",
   "    return _v[i];",
   "  \x7d",
   "  const T &operator[](int i) const \x7b",
   "    _check(i, \"operator[]\");",
   "    return _v[i];",
   "  \x7d",
   "  bool contains(const T &value) const \x7b",
   "    return std::find(_v.begin(), _v.end(), value) != _v.end();",
   "  \x7d",
   "  int indexOf(const T &value) const \x7b",
   "    auto it = std::find(_v.begin(), _v.end(), value);",
   "    return it == _v.end() ? -1 : (int)(it - _v.begin());",
   "  \x7d",
   "  void sort() \x7b std::sort(_v.begin(), _v.end()); \x7d",
   "  Vector<T> subList(int start, int length) const \x7b",
   "    if (start < 0 || length < 0 || start + length > (int)_v.size())",
   "      error(\"Vector::subList: invalid range\");",
   "    Vector<T> result;",
   "    for (int i = start; i < start + length; i++)",
   "      result.add(_v[i]);",
   "    return result;",
   "  \x7d",
   "  Vector<T> &operator+=(const T &value) \x7b",
   "    add(value);",
   "    return *this;",
   "  \x7d",
   "  bool operator==(const Vector<T> &other) const \x7b return _v == other._v; \x7d",
   "  bool operator!=(const Vector<T> &other) const \x7b return _v != other._v; \x7d",
   "  bool operator<(const Vector<T> &other) const \x7b return _v < other._v; \x7d",
   "",
   "  typename vector<T>::iterator begin() \x7b return _v.begin(); \x7d",
   "  typename vector<T>::iterator end() \x7b return _v.end(); \x7d",
   "  typename vector<T>::const_iterator begin() const \x7b return _v.begin(); \x7d",
   "  typename vector<T>::const_iterator end() const \x7b return _v.end(); \x7d",
   "",
   "  string toString() const \x7b",
   "    using It = typename vector<T>::const_iterator;",
   "    return \"\x7b\" +",
   "           _debug_join<It>(_v.begin(), _v.end(),",
   "                           [](It it) \x7b return _debug_to_string(*it); \x7d) +",
   "           \"\x7d\";",
   "  \x7d",
   "  string toDebugString() const \x7b",
   "    using It = typename vector<T>::const_iterator;",
   "    return \"[\" +",
   "           _debug_join<It>(_v.begin(), _v.end(),",
   "                           [](It it) \x7b return _debug_json_value(*it); \x7d) +",
   "           \"]\";",
   "  \x7d",
   "\x7d;",
   "",
   "template <typename T> ostream &operator<<(ostream &os, const Vector<T> &v) \x7b",
   "  return os << v.toString();",
   "\x7d",
   "",
   "// ------------------------------------------------------------",
   "// Grid",
   "// ------------------------------------------------------------",
   "",
   "struct GridLocation \x7b",
   "  int row, col;",
   "  GridLocation(int r = 0, int c = 0) : row(r), col(c) \x7b\x7d",
   "  string toString() const \x7b",
   "    return \"r\" + to_string(row) + \"c\" + to_string(col);",
   "  \x7d",
   "  string toDebugString() const \x7b",
   "    return \"\x7b\\\"row\\\": \" + to_string(row) + \", \\\"col\\\": \" + to_string(col) + \"\x7d\";",
   "  \x7d",
   "\x7d;",
   "",
   "inline bool operator==(const GridLocation &a, const GridLocation &b) \x7b",
   "  return a.row == b.row && a.col == b.col;",
   "\x7d",
   "inline bool operator!=(const GridLocation &a, const GridLocation &b) \x7b",
   "  return !(a == b);",
   "\x7d",
   "inline bool operator<(const GridLocation &a, const GridLocation &b) \x7b",
   "  return a.row < b.row || (a.row == b.row && a.col < b.col);",
   "\x7d",
   "inline ostream &operator<<(ostream &os, const GridLocation &loc) \x7b",
   "  return os << loc.toString();",
   "\x7d",
   "",
   "namespace std \x7b",
   "template <> struct hash<GridLocation> \x7b",
   "  size_t operator()(const GridLocation &loc) const \x7b",
   "    return hash<int>()(loc.row) * 31 + hash<int>()(loc.col);",
   "  \x7d",
   "\x7d;",
   "\x7d // namespace std",
   "",
   "template <typename T> class Grid \x7b",
   "  int _rows = 0, _cols = 0;",
   "  vector<T> _cells;",
   "",
   "  void _check(int r, int c, const char *op) const \x7b",
   "    if (!inBounds(r, c))",
   "      error(string(\"Grid::\") + op + \": (\" + to_string(r) + \", \" +",
   "            to_string(c) + \") is outside of the grid\");",
   "  \x7d",
   "",
   "public:",
   "  Grid() \x7b\x7d",
   "  Grid(int rows, int cols, const T &value = T()) \x7b resize(rows, cols, value); \x7d",
   "  Grid(std::initializer_list<std::initializer_list<T>> rows) \x7b",
   "    _rows = (int)rows.size();",
   "    _cols = _rows > 0 ? (int)rows.begin()->size() : 0;",
   "    for (const auto &row : rows) \x7b",
   "      if ((int)row.size() != _cols)",
   "        error(\"Grid: rows must have the same length\");",
   "      _cells.insert(_cells.end(), row.begin(), row.end());",
   "    \x7d",
   "  \x7d",
   "",
   "  void resize(int rows, int cols, const T &value = T()) \x7b",
   "    if (rows < 0 || cols < 0)",
   "      error(\"Grid::resize: negative size\");",
   "    _rows = rows;",
   "    _cols = cols;",
   "    _cells.assign((size_t)rows * cols, value);",
   "  \x7d",
   "  int numRows() const \x7b return _rows; \x7d",
   "  int numCols() const \x7b return _cols; \x7d",
   "  int size() const \x7b return _rows * _cols; \x7d",
   "  bool isEmpty() const \x7b return size() == 0; \x7d",
   "  bool inBounds(int r, int c) const \x7b",
   "    return r >= 0 && r < _rows && c >= 0 && c < _cols;",
   "  \x7d",
   "  bool inBounds(const GridLocation &loc) const \x7b",
   "    return inBounds(loc.row, loc.col);",
   "  \x7d",
   "  const T &get(int r, int c) const \x7b",
   "    _check(r, c, \"get\");",
   "    return _cells[(size_t)r * _cols + c];",
   "  \x7d",
   "  void set(int r, int c, const T &value) \x7b",
   "    _check(r, c, \"set\");",
   "    _cells[(size_t)r * _cols + c] = value;",
   "  \x7d",
   "  T &operator[](const GridLocation &loc) \x7b",
   "    _check(loc.row, loc.col, \"operator[]\");",
   "    return _cells[(size_t)loc.row * _cols + loc.col];",
   "  \x7d",
   "  const T &operator[](const GridLocation &loc) const \x7b",
   "    _check(loc.row, loc.col, \"operator[]\");",
   "    return _cells[(size_t)loc.row * _cols + loc.col];",
   "  \x7d",
   "  bool operator==(const Grid<T> &other) const \x7b",
   "    return _rows == other._rows && _cols == other._cols &&",
   "           _cells == other._cells;",
   "  \x7d",
   "  bool operator!=(const Grid<T> &other) const \x7b return !(*this == other); \x7d",
   "",
   "  Vector<GridLocation> locations() const \x7b",
   "    Vector<GridLocation> locs;",
   "    for (int r = 0; r < _rows; r++)",
   "      for (int c = 0; c < _cols; c++)",
   "        locs.add(GridLocation(r, c));",
   "    return locs;",
   "  \x7d",
   "",
   "  string toString() const \x7b",
   "    string out = \"\x7b\";",
   "    for (int r = 0; r < _rows; r++) \x7b",
   "      if (r > 0)",
   "        out += \", \";",
   "      out += \"\x7b\";",
   "      for (int c = 0; c < _cols; c++) \x7b",
   "        if (c > 0)",
   "          out += \", \";",
   "        out += _debug_to_string(get(r, c));",
   "      \x7d",
   "      out += \"\x7d\";",
   "    \x7d",
   "    return out + \"\x7d\";",
   "  \x7d",
   "  string toDebugString() const \x7b",
   "    string out = \"[\";",
   "    for (int r = 0; r < _rows; r++) \x7b",
   "      if (r > 0)",
   "        out += \", \";",
   "      out += \"[\";",
   "      for (int c = 0; c < _cols; c++) \x7b",
   "        if (c > 0)",
   "          out += \", \";",
   "        out += _debug_json_value(get(r, c));",
   "      \x7d",
   "      out += \"]\";",
   "    \x7d",
   "    return out + \"]\";",
   "  \x7d",
   "\x7d;",
   "",
   "template <typename T> ostream &operator<<(ostream &os, const Grid<T> &g) \x7b",
   "  return os << g.toString();",
   "\x7d",
   "",
   "// ------------------------------------------------------------",
   "// Stack and Queue",
   "// ------------------------------------------------------------",
   "",
   "template <typename T> class Stack \x7b",
   "  vector<T> _items;",
   "",
   "public:",
   "  Stack() \x7b\x7d",
   "  Stack(std::initializer_list<T> list) : _items(list) \x7b\x7d",
   "  int size() const \x7b return (int)_items.size(); \x7d",
   "  bool isEmpty() const \x7b return _items.empty(); \x7d",
   "  void clear() \x7b _items.clear(); \x7d",
   "  void push(const T &value) \x7b _items.push_back(value); \x7d",
   "  T pop() \x7b",
   "    if (_items.empty())",
   "      error(\"Stack::pop: stack is empty\");",
   "    T value = _items.back();",
   "    _items.pop_back();",
   "    return value;",
   "  \x7d",
   "  const T &peek() const \x7b",
   "    if (_items.empty())",
   "      error(\"Stack::peek: stack is empty\");",
   "    return _items.back();",
   "  \x7d",
   "  bool operator==(const Stack<T> &other) const \x7b",
   "    return _items == other._items;",
   "  \x7d",
   "  string toString() const \x7b",
   "    using It = typename vector<T>::const_iterator;",
   "    return \"\x7b\" +",
   "           _debug_join<It>(_items.begin(), _items.end(),",
   "                           [](It it) \x7b return _debug_to_string(*it); \x7d) +",
   "           \"\x7d\";",
   "  \x7d",
   "  string toDebugString() const \x7b",
   "    using It = typename vector<T>::const_iterator;",
   "    return \"[\" +",
   "           _debug_join<It>(_items.begin(), _items.end(),",
   "                           [](It it) \x7b return _debug_json_value(*it); \x7d) +",
   "           \"]\";",
   "  \x7d",
   "\x7d;",
   "",
   "template <typename T> ostream &operator<<(ostream &os, const Stack<T> &s) \x7b",
   "  return os << s.toString();",
   "\x7d",
   "",
   "template <typename T> class Queue \x7b",
   "  deque<T> _items;",
   "",
   "public:",
   "  Queue() \x7b\x7d",
   "  Queue(std::initializer_list<T> list) : _items(list) \x7b\x7d",
   "  int size() const \x7b return (int)_items.size(); \x7d",
   "  bool isEmpty() const \x7b return _items.empty(); \x7d",
   "  void clear() \x7b _items.clear(); \x7d",
   "  void enqueue(const T &value) \x7b _items.push_back(value); \x7d",
   "  T dequeue() \x7b",
   "    if (_items.empty())",
   "      error(\"Queue::dequeue: queue is empty\");",
   "    T value = _items.front();",
   "    _items.pop_front();",
   "    return value;",
   "  \x7d",
   "  const T &peek() const \x7b",
   "    if (_items.empty())",
   "      error(\"Queue::peek: queue is empty\");",
   "    return _items.front();",
   "  \x7d",
   "  bool operator==(const Queue<T> &other) const \x7b",
   "    return _items == other._items;",
   "  \x7d",
   "  string toString() const \x7b",
   "    using It = typename deque<T>::const_iterator;",
   "    return \"\x7b\" +",
   "           _debug_join<It>(_items.begin(), _items.end(),",
   "                           [](It it) \x7b return _debug_to_string(*it); \x7d) +",
   "           \"\x7d\";",
   "  \x7d",
   "  string toDebugString() const \x7b",
   "    using It = typename deque<T>::const_iterator;",
   "    return \"[\" +",
   "           _debug_join<It>(_items.begin(), _items.end(),",
   "                           [](It it) \x7b return _debug_json_value(*it); \x7d) +",
   "           \"]\";",
   "  \x7d",
   "\x7d;",
   "",
   "template <typename T> ostream &operator<<(ostream &os, const Queue<T> &q) \x7b",
   "  return os << q.toString();",
   "\x7d",
   "",
   "// Lower priority dequeues first; equal priorities keep insertion order.",
   "template <typename T> class PriorityQueue \x7b",
   "  struct Entry \x7b",
   "    T value;",
   "    double priority;",
   "  \x7d;",
   "  vector<Entry> _entries;",
   "",
   "public:",
   "  PriorityQueue() \x7b\x7d",
   "  int size() const \x7b return (int)_entries.size(); \x7d",
   "  bool isEmpty() const \x7b return _entries.empty(); \x7d",
   "  void clear() \x7b _entries.clear(); \x7d",
   "  void enqueue(const T &value, double priority) \x7b",
   "    auto at = std::upper_bound(",
   "        _entries.begin(), _entries.end(), priority,",
   "        [](double p, const Entry &entry) \x7b return p < entry.priority; \x7d);",
   "    _entries.insert(at, Entry\x7bvalue, priority\x7d);",
   "  \x7d",
   "  T dequeue() \x7b",
   "    if (_entries.empty())",
   "      error(\"PriorityQueue::dequeue: queue is empty\");",
   "    T value = _entries.front().value;",
   "    _entries.erase(_entries.begin());",
   "    return value;",
   "  \x7d",
   "  const T &peek() const \x7b",
   "    if (_entries.empty())",
   "      error(\"PriorityQueue::peek: queue is empty\");",
   "    return _entries.front().value;",
   "  \x7d",
   "  double peekPriority() const \x7b",
   "    if (_entries.empty())",
   "      error(\"PriorityQueue::peekPriority: queue is empty\");",
   "    return _entries.front().priority;",
   "  \x7d",
   "  void changePriority(const T &value, double priority) \x7b",
   "    for (auto it = _entries.begin(); it != _entries.end(); ++it) \x7b",
   "      if (it->value == value) \x7b",
   "        _entries.erase(it);",
   "        enqueue(value, priority);",
   "        return;",
   "      \x7d",
   "    \x7d",
   "    error(\"PriorityQueue::changePriority: value not found\");",
   "  \x7d",
   "  bool operator==(const PriorityQueue<T> &other) const \x7b",
   "    if (_entries.size() != other._entries.size())",
   "      return false;",
   "    for (size_t i = 0; i < _entries.size(); i++) \x7b",
   "      if (!(_entries[i].value == other._entries[i].value) ||",
   "          _entries[i].priority != other._entries[i].priority)",
   "        return false;",
   "    \x7d",
   "    return true;",
   "  \x7d",
   "  string toString() const \x7b",
   "    using It = typename vector<Entry>::const_iterator;",
   "    return \"\x7b\" +",
   "           _debug_join<It>(_entries.begin(), _entries.end(),",
   "                           [](It it) \x7b",
   "                             return _debug_to_string(it->priority) + \":\" +",
   "                                    _debug_to_string(it->value);",
   "                           \x7d) +",
   "           \"\x7d\";",
   "  \x7d",
   "  string toDebugString() const \x7b",
   "    using It = typename vector<Entry>::const_iterator;",
   "    return \"[\" +",
   "           _debug_join<It>(_entries.begin(), _entries.end(),",
   "                           [](It it) \x7b",
   "                             return \"\x7b\\\"value\\\": \" +",
   "                                    _debug_json_value(it->value) +",
   "                                    \", \\\"priority\\\": \" +",
   "                                    _debug_to_string(it->priority) + \"\x7d\";",
   "                           \x7d) +",
   "           \"]\";",
   "  \x7d",
   "\x7d;",
   "",
   "template <typename T>",
   "ostream &operator<<(ostream &os, const PriorityQueue<T> &pq) \x7b",
   "  return os << pq.toString();",
   "\x7d",
   "",
   "// ------------------------------------------------------------",
   "// Maps",
   "// ------------------------------------------------------------",
   "",
   "template <typename Inner, typename K, typename V> class _DebugMapBase \x7b",
   "protected:",
   "  Inner _m;",
   "",
   "public:",
   "  int size() const \x7b return (int)_m.size(); \x7d",
   "  bool isEmpty() const \x7b return _m.empty(); \x7d",
   "  void clear() \x7b _m.clear(); \x7d",
   "  void put(const K &key, const V &value) \x7b _m[key] = value; \x7d",
   "  V get(const K &key) const \x7b",
   "    auto it = _m.find(key);",
   "    return it == _m.end() ? V() : it->second;",
   "  \x7d",
   "  bool containsKey(const K &key) const \x7b return _m.find(key) != _m.end(); \x7d",
   "  void remove(const K &key) \x7b _m.erase(key); \x7d",
   "  V &operator[](const K &key) \x7b return _m[key]; \x7d",
   "  Vector<K> keys() const \x7b",
   "    Vector<K> out;",
   "    for (const auto &entry : _m)",
   "      out.add(entry.first);",
   "    return out;",
   "  \x7d",
   "  Vector<V> values() const \x7b",
   "    Vector<V> out;",
   "    for (const auto &entry : _m)",
   "      out.add(entry.second);",
   "    return out;",
   "  \x7d",
   "",
   "  // iterates over keys, like the course library",
   "  struct const_iterator \x7b",
   "    typename Inner::const_iterator it;",
   "    const K &operator*() const \x7b return it->first; \x7d",
   "    const_iterator &operator++() \x7b",
   "      ++it;",
   "      return *this;",
   "    \x7d",
   "    bool operator!=(const const_iterator &other) const \x7b",
   "      return it != other.it;",
   "    \x7d",
   "  \x7d;",
   "  const_iterator begin() const \x7b return const_iterator\x7b_m.begin()\x7d; \x7d",
   "  const_iterator end() const \x7b return const_iterator\x7b_m.end()\x7d; \x7d",
   "",
   "  string toString() const \x7b",
   "    using It = typename Inner::const_iterator;",
   "    return \"\x7b\" +",
   "           _debug_join<It>(_m.begin(), _m.end(),",
   "                           [](It it) \x7b",
   "                             return _debug_to_string(it->first) + \":\" +",
   "                                    _debug_to_string(it->second);",
   "                           \x7d) +",
   "           \"\x7d\";",
   "  \x7d",
   "  string toDebugString() const \x7b",
   "    using It = typename Inner::const_iterator;",
   "    return \"\x7b\" +",
   "           _debug_join<It>(_m.begin(), _m.end(),",
   "                           [](It it) \x7b",
   "                             return \"\\\"\" +",
   "                                    _debug_json_escape(",
   "                                        _debug_to_string(it->first)) +",
   "                                    \"\\\": \" + _debug_json_value(it->second);",
   "                           \x7d) +",
   "           \"\x7d\";",
   "  \x7d",
   "\x7d;",
   "",
   "template <typename K, typename V>",
   "class Map : public _DebugMapBase<map<K, V>, K, V> \x7b",
   "public:",
   "  Map() \x7b\x7d",
   "  Map(std::initializer_list<pair<const K, V>> list) \x7b this->_m = list; \x7d",
   "  bool operator==(const Map<K, V> &other) const \x7b return this->_m == other._m; \x7d",
   "\x7d;",
   "",
   "template <typename K, typename V>",
   "class HashMap : public _DebugMapBase<unordered_map<K, V>, K, V> \x7b",
   "public:",
   "  HashMap() \x7b\x7d",
   "  HashMap(std::initializer_list<pair<const K, V>> list) \x7b this->_m = list; \x7d",
   "  bool operator==(const HashMap<K, V> &other) const \x7b",
   "    return this->_m == other._m;",
   "  \x7d",
   "\x7d;",
   "",
   "template <typename K, typename V>",
   "ostream &operator<<(ostream &os, const Map<K, V> &m) \x7b",
   "  return os << m.toString();",
   "\x7d",
   "template <typename K, typename V>",
   "ostream &operator<<(ostream &os, const HashMap<K, V> &m) \x7b",
   "  return os << m.toString();",
   "\x7d",
   "",
   "// ------------------------------------------------------------",
   "// Sets",
   "// ------------------------------------------------------------",
   "",
   "template <typename Inner, typename T> class _DebugSetBase \x7b",
   "protected:",
   "  Inner _s;",
   "",
   "public:",
   "  int size() const \x7b return (int)_s.size(); \x7d",
   "  bool isEmpty() const \x7b return _s.empty(); \x7d",
   "  void clear() \x7b _s.clear(); \x7d",
   "  void add(const T &value) \x7b _s.insert(value); \x7d",
   "  void remove(const T &value) \x7b _s.erase(value); \x7d",
   "  bool contains(const T &value) const \x7b return _s.find(value) != _s.end(); \x7d",
   "  typename Inner::const_iterator begin() const \x7b return _s.begin(); \x7d",
   "  typename Inner::const_iterator end() const \x7b return _s.end(); \x7d",
   "",
   "  string toString() const \x7b",
   "    using It = typename Inner::const_iterator;",
   "    return \"\x7b\" +",
   "           _debug_join<It>(_s.begin(), _s.end(),",
   "                           [](It it) \x7b return _debug_to_string(*it); \x7d) +",
   "           \"\x7d\";",
   "  \x7d",
   "  string toDebugString() const \x7b",
   "    using It = typename Inner::const_iterator;",
   "    return \"[\" +",
   "           _debug_join<It>(_s.begin(), _s.end(),",
   "                           [](It it) \x7b return _debug_json_value(*it); \x7d) +",
   "           \"]\";",
   "  \x7d",
   "\x7d;",
   "",
   "template <typename T> class Set : public _DebugSetBase<set<T>, T> \x7b",
   "public:",
   "  Set() \x7b\x7d",
   "  Set(std::initializer_list<T> list) \x7b this->_s = list; \x7d",
   "  bool operator==(const Set<T> &other) const \x7b return this->_s == other._s; \x7d",
   "  bool operator<(const Set<T> &other) const \x7b return this->_s < other._s; \x7d",
   "  Set<T> unionWith(const Set<T> &other) const \x7b",
   "    Set<T> out = *this;",
   "    for (const auto &value : other)",
   "      out.add(value);",
   "    return out;",
   "  \x7d",
   "  Set<T> intersect(const Set<T> &other) const \x7b",
   "    Set<T> out;",
   "    for (const auto &value : *this)",
   "      if (other.contains(value))",
   "        out.add(value);",
   "    return out;",
   "  \x7d",
   "\x7d;",
   "",
   "template <typename T>",
   "class HashSet : public _DebugSetBase<unordered_set<T>, T> \x7b",
   "public:",
   "  HashSet() \x7b\x7d",
   "  HashSet(std::initializer_list<T> list) \x7b this->_s = list; \x7d",
   "  bool operator==(const HashSet<T> &other) const \x7b",
   "    return this->_s == other._s;",
   "  \x7d",
   "\x7d;",
   "",
   "template <typename T> ostream &operator<<(ostream &os, const Set<T> &s) \x7b",
   "  return os << s.toString();",
   "\x7d",
   "template <typename T> ostream &operator<<(ostream &os, const HashSet<T> &s) \x7b",
   "  return os << s.toString();",
   "\x7d"]

end Stepwise.Header
